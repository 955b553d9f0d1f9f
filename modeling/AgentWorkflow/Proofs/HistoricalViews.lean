import AgentWorkflow.Proofs.FetchedDefinitions
import AgentWorkflow.Proofs.Display

/-!
# A finished run looks the same whatever was shown before

A monitor turns to a finished run from anywhere: it may stand at a gate of a live run,
show another definition, or look at another finished run, and it may have lost the
runtime in between. Definitions that it shows already are not fetched, so the graph on
which the run is shown has marks and outputs on it.

None of this can be seen afterwards. What is shown is worked out from the run and from
the definitions that the runtime has (`Graph.review`, `Monitor.resolve`), and two monitors
that are answered the same show the same (`Monitor.historical_views_are_alike`).

**Why nothing is left.** Turning to the run drops the gate that waits and forgets which
nodes were marked last. So the snapshot of the run marks all nodes anew, and the marks and
outputs from before are taken off first. The graph itself is the one that was last fetched
under its name, whenever that was.

**What is taken for granted.** The properties of a node arrive as an object, and an object
has no key twice. Of two outputs kept for a node only one would be taken off.
-/

namespace AgentWorkflow

namespace Graph

open Node (lastOutputKey)

/-- What is seen of a node: which one it is, its status, and the output kept for it. -/
abbrev Node.View : Type := String × NodeStatus × Option Json

/-- What is seen of a node. -/
def Node.view (n : Node) : Node.View := (n.id, n.status, n.lastOutput?)

/-- What is seen of all nodes, in order. -/
def view (g : Graph) : List Node.View := g.nodes.map Node.view

/-- What is seen when an output is recorded. -/
def Node.View.record (output : String × Json) (seen : Node.View) : Node.View :=
  if seen.1 = output.1 then (seen.1, .executed, some output.2) else seen

/-- What is seen when some nodes are marked as failed. -/
def Node.View.fail (frontier : List String) (seen : Node.View) : Node.View :=
  if frontier.contains seen.1 then (seen.1, .failed, none) else seen

/-- **What is seen of a finished run** on a graph: the outputs of the nodes that ran, and
where the run may have stopped. -/
def review (g : Graph) (run : HistoricalRun) : List Node.View :=
  let ran := run.finalState.nodeOutputs.foldl
    (fun seen output => seen.map (Node.View.record output))
    (g.ids.map fun id => (id, .plain, none))
  if run.isFailed then ran.map (Node.View.fail (Session.failedFrontier g run.finalState)) else ran

variable {g : Graph} {change : Node → Node}

theorem view_mapNodes {seen : Node.View → Node.View}
    (remarks : ∀ n ∈ g.nodes, Node.view { change n with id := n.id } = seen n.view) :
    (g.mapNodes change).view = g.view.map seen := by
  unfold view
  rw [nodes_mapNodes, List.map_map, List.map_map]
  exact List.map_congr_left remarks

theorem view_resetStatuses (apart : g.DistinctKeys) :
    g.resetStatuses.view = g.ids.map fun id => (id, .plain, none) := by
  have forgotten : g.resetStatuses.view = g.view.map fun seen => (seen.1, .plain, none) :=
    view_mapNodes fun n hn => congrArg (fun output => (n.id, NodeStatus.plain, output))
      (Node.lastOutput?_setStatus_none (apart n hn) .plain)
  rw [forgotten]
  unfold view ids
  rw [List.map_map, List.map_map]
  rfl

theorem view_record (g : Graph) (output : String × Json) :
    (g.updateNode output.1 fun n => n.setStatus .executed (some output.2)).view
      = g.view.map (Node.View.record output) := by
  refine view_mapNodes fun n _ => ?_
  by_cases here : n.id = output.1
  · rw [if_pos here]
    exact (congrArg (fun kept => (n.id, NodeStatus.executed, kept))
      (n.lastOutput?_setStatus_some .executed output.2)).trans (if_pos here).symm
  · rw [if_neg here]
    exact (if_neg here).symm

/-- Nodes that are marked as failed keep no output. -/
theorem view_fail (apart : g.DistinctKeys) (frontier : List String) :
    (g.mapNodes fun n => if frontier.contains n.id then n.setStatus .failed none else n).view
      = g.view.map (Node.View.fail frontier) := by
  refine view_mapNodes fun n hn => ?_
  by_cases here : frontier.contains n.id = true
  · rw [if_pos here]
    exact (congrArg (fun kept => (n.id, NodeStatus.failed, kept))
      (Node.lastOutput?_setStatus_none (apart n hn) .failed)).trans (if_pos here).symm
  · rw [if_neg here]
    exact (if_neg here).symm

end Graph

namespace Session

variable {s : Session} {runId name : String} {snapshot : Snapshot} {made : Graph}

/-- **Where a run may have stopped** is a matter of nodes and wires. -/
theorem failedFrontier_silent (g : Graph) (snapshot : Snapshot) :
    failedFrontier g.silent snapshot = failedFrontier g snapshot := by
  unfold failedFrontier
  dsimp only
  rw [Graph.nodes_silent, List.filter_map, List.map_map]
  rfl

theorem view_recordAll (g : Graph) (outputs : Fields) :
    (recordAll g outputs).view
      = outputs.foldl (fun seen output => seen.map (Graph.Node.View.record output)) g.view := by
  induction outputs generalizing g with
  | nil => rfl
  | cons output outputs ih => exact (ih _).trans (by rw [Graph.view_record, List.foldl_cons])

/-- **Marking where a run may have stopped** marks those nodes, if there are any. -/
theorem value_markFailedFrontier (s : Session) (snapshot : Snapshot) :
    (s.markFailedFrontier snapshot).value.1
      = { s with graph := s.graph.mapNodes fun n =>
            if (failedFrontier s.graph snapshot).contains n.id then n.setStatus .failed none
            else n } := by
  unfold markFailedFrontier
  split
  · next nowhere =>
    have unchanged : (s.graph.mapNodes fun n =>
        if (failedFrontier s.graph snapshot).contains n.id then n.setStatus .failed none else n)
        = s.graph := by
      rw [nowhere]
      exact Graph.eq_of_nodes (List.map_id' _)
    rw [unchanged]
    rfl
  · rfl

/-- **The session looks at a finished run.** -/
structure LooksAt (s : Session) (runId : String) : Prop where
  /-- It looks at that run. -/
  mode : s.mode = .historical runId
  /-- It does not watch. -/
  state : s.state = .stopped
  /-- No gate waits. -/
  outstanding : s.approvals.outstanding = none

/-- **The session has just turned to a finished run**, and has forgotten what it knew of
others. -/
structure TurnedTo (s : Session) (runId : String) : Prop extends s.LooksAt runId where
  /-- It remembers no nodes that were marked. -/
  signature : s.signature = none

/-- Turning to a finished run is to forget the others. -/
theorem turnedTo_loadHistorical (s : Session) (runId : String) :
    (s.loadHistorical runId).value.TurnedTo runId := by
  rw [value_loadHistorical]
  exact ⟨⟨rfl, rfl, rfl⟩, rfl⟩

/-- **The session shows a finished run** on a graph. -/
structure ShowsRun (s : Session) (runId name : String) (made : Graph) (run : HistoricalRun) :
    Prop extends s.LooksAt runId where
  /-- The graph is shown under that name. -/
  definition : s.definitionName = some name
  /-- Nodes and wires are those of the graph. -/
  silent : s.graph.silent = made.silent
  /-- The run is seen on it. -/
  view : s.graph.view = made.review run

/-- **The session that a finished run is handed to**: its nodes are marked and, if the run
failed, those where it may have stopped. -/
def taken (s : Session) (runId : String) (run : HistoricalRun) : Session :=
  let marked := s.marked runId run.finalState
  if run.isFailed then (marked.markFailedFrontier run.finalState).value.1 else marked

/-- Who remembers nothing marks all nodes anew. -/
theorem TurnedTo.graph_marked (h : s.TurnedTo runId) (snapshot : Snapshot) :
    (s.marked runId snapshot).graph
      = recordAll s.graph.resetStatuses snapshot.nodeOutputs := by
  have anew : ¬(s.requestId = some runId ∧ s.signature = some snapshot.signature) := fun same =>
    absurd (h.signature.symm.trans same.2) nofun
  refine (if_neg anew).trans ?_
  unfold markExecuted
  rw [h.outstanding]
  rfl

/-- **Who has turned to a run shows it** when it is handed in. -/
theorem TurnedTo.shows (h : s.TurnedTo runId) (definition : s.definitionName = some name)
    (retains : s.graph.Retains made) (apart : made.DistinctKeys) (run : HistoricalRun) :
    (s.taken runId run).ShowsRun runId name made run := by
  let marked := s.marked runId run.finalState
  have retained : marked.graph.Retains made := (s.retains_marked runId run.finalState).trans retains
  have ran : marked.graph.view = run.finalState.nodeOutputs.foldl
      (fun seen output => seen.map (Graph.Node.View.record output))
      (made.ids.map fun id => (id, .plain, none)) := by
    rw [h.graph_marked, view_recordAll, Graph.view_resetStatuses (retains.distinctKeys apart),
      retains.ids_eq]
  unfold taken
  cases failed : run.isFailed with
  | false =>
    refine ⟨⟨h.mode, h.state, h.outstanding⟩, definition, retained.silent, ?_⟩
    unfold Graph.review
    rw [failed]
    exact ran
  | true =>
    -- marks and outputs have no say in where the run may have stopped
    have frontier : failedFrontier marked.graph run.finalState
        = failedFrontier made run.finalState := by
      rw [← failedFrontier_silent, retained.silent, failedFrontier_silent]
    have kept := (marked.retains_markFailedFrontier run.finalState).2.trans retained
    dsimp only
    rw [if_pos rfl]
    rw [value_markFailedFrontier] at kept ⊢
    refine ⟨⟨h.mode, h.state, h.outstanding⟩, definition, kept.silent, ?_⟩
    unfold Graph.review
    rw [failed, if_pos rfl, ← ran, ← frontier]
    exact Graph.view_fail (retained.distinctKeys apart) _

end Session

namespace Monitor

variable {σ : Type} {rt : AgentRuntime σ} {definitions : String → Except Error Definition}
  {config : AppConfig} {m : Monitor} {log : List Fetch} {runId name : String}

/-! ## Which definition is shown -/

/-- **What was answered comes from one table** of definitions. -/
def AnsweredFrom (definitions : String → Except Error Definition) (log : List Fetch) : Prop :=
  ∀ f ∈ log, f.answer = definitions f.name

/-- **What is shown for a name**: its definition, or the default one in its place. -/
def resolve (definitions : String → Except Error Definition) (fallback name : String) :
    Except Error (String × Definition) :=
  match definitions name with
  | .ok definition => .ok (name, definition)
  | .error e => if name = fallback then .error e else (definitions fallback).map (Prod.mk fallback)

theorem definitions_of_resolve {fallback shown : String} {definition : Definition}
    (found : resolve definitions fallback name = .ok (shown, definition)) :
    definitions shown = .ok definition := by
  unfold resolve at found
  split at found
  · next known =>
    cases found
    exact known
  · split at found
    · cases found
    · cases known : definitions fallback with
      | error e =>
        rw [known] at found
        cases found
      | ok _ =>
        rw [known] at found
        cases found
        exact known

theorem AnsweredFrom.of_last {answer : Except Error Definition} (h : AnsweredFrom definitions log)
    (last : lastAnswer? log name = some answer) : definitions name = answer := by
  obtain ⟨f, found, rfl⟩ := Option.map_eq_some_iff.mp last
  have same : f.name = name := by simpa using List.find?_some found
  rw [← same]
  exact (h f (List.mem_reverse.mp (List.mem_of_find?_eq_some found))).symm

/-- A question that was answered from it was answered with what it says. -/
theorem AnsweredFrom.of_noting {u t : σ × List Fetch} {answer : Except Error Definition}
    (h : AnsweredFrom definitions t.2)
    (answered : rt.noting.fetchDefinition name u = (answer, t)) :
    AnsweredFrom definitions u.2 ∧ definitions name = answer := by
  obtain ⟨-, noted⟩ := AgentRuntime.noted_of_noting answered
  unfold AnsweredFrom at h
  rw [noted, List.forall_mem_append, List.forall_mem_singleton] at h
  exact ⟨h.1, h.2.symm⟩

/-- A runtime whose definitions never change answers from one table. -/
theorem answeredFrom_fetches (constant : ∀ name s, (rt.fetchDefinition name s).1 = definitions name)
    (w : Monitor × σ) (ops : List Operation) : AnsweredFrom definitions (fetches rt w ops) := by
  have none : AnsweredFrom definitions [] := nofun
  refine fetches_keeps rt none (fun log name s known => ?_) w ops
  exact List.forall_mem_append.mpr ⟨known, List.forall_mem_singleton.mpr (constant name s)⟩

/-- **The definition that is shown is worked out from the table**, whatever was shown
before. -/
theorem KeepsTo.resolves (h : KeepsTo config m log) (definitions : String → Except Error Definition)
    (rt : AgentRuntime σ) (name : String) (s : σ) :
    (ensureDefinition rt.noting m name).Ends (s, log) fun r t _ =>
      AnsweredFrom definitions t.2 →
        (∃ e, resolve definitions config.sync.defaultWorkflow name = .error e ∧ r.2 = .error e)
          ∨ ∃ shown definition changed,
            resolve definitions config.sync.defaultWorkflow name = .ok (shown, definition)
              ∧ r.2 = .ok changed ∧ r.1.session.definitionName = some shown
              ∧ r.1.session.graph.Retains
                (Graph.build (Registry.ofConfig config) definition).graph := by
  have kept := h.ends_ensureDefinition rt name s
  have ensured := ensures rt.noting m name (s, log)
  unfold Asking.Ends at *
  rw [← h.sync]
  generalize ensureDefinition rt.noting m name (s, log) = result at kept ensured ⊢
  intro table
  have shows {shown : String} (here : result.value.1.1.session.definitionName = some shown) :
      ∃ definition, definitions shown = .ok definition
        ∧ result.value.1.1.session.graph.Retains
          (Graph.build (Registry.ofConfig config) definition).graph := by
    obtain ⟨definition, last, retains⟩ := kept.shown shown here
    exact ⟨definition, table.of_last last, retains⟩
  have resolved {e : Error} (lost : definitions name = .error e)
      (other : name ≠ m.sync.defaultWorkflow) : resolve definitions m.sync.defaultWorkflow name
        = (definitions m.sync.defaultWorkflow).map (Prod.mk m.sync.defaultWorkflow) := by
    unfold resolve
    rw [lost]
    exact if_neg other
  -- what was shown before is in the table too, since it was the last answer about its name
  cases ensured with
  | cached here =>
    have here := (cached_iff h.requested).mp here
    obtain ⟨definition, known, retains⟩ := shows here
    refine Or.inr ⟨name, definition, false, ?_, rfl, here, retains⟩
    unfold resolve
    rw [known]
  | fetched _ answer =>
    obtain ⟨definition, known, retains⟩ := shows rfl
    refine Or.inr ⟨name, definition, true, ?_, rfl, rfl, retains⟩
    unfold resolve
    rw [known]
  | lost _ answer last =>
    refine Or.inl ⟨_, ?_, rfl⟩
    unfold resolve
    rw [(table.of_noting answer).2]
    exact if_pos last
  | kept _ answer other here =>
    obtain ⟨definition, known, retains⟩ := shows here
    refine Or.inr ⟨_, definition, false, ?_, rfl, here, retains⟩
    rw [resolved (table.of_noting answer).2 other, known]
    rfl
  | replaced _ answer other hidden fallback =>
    obtain ⟨before, known⟩ := table.of_noting fallback
    obtain ⟨definition, known, retains⟩ := shows rfl
    refine Or.inr ⟨_, definition, true, ?_, rfl, rfl, retains⟩
    rw [resolved (before.of_noting answer).2 other, known]
    rfl
  | neither _ answer other hidden fallback =>
    obtain ⟨before, lost⟩ := table.of_noting fallback
    refine Or.inl ⟨_, ?_, rfl⟩
    rw [resolved (before.of_noting answer).2 other, lost]
    rfl

/-! ## Looking at a finished run -/

theorem Leads.turnedTo {rt' : AgentRuntime σ} {m₀ m' : Monitor} {said : List Event}
    (h : Leads (ShowsFetched rt' m₀) m said m') (turned : m.session.TurnedTo runId) :
    m'.session.TurnedTo runId ∧ m'.session.beginFetch = m.session.beginFetch := by
  refine h.keeps (P := fun s => s.TurnedTo runId ∧ s.beginFetch = m.session.beginFetch) ?_
    ⟨turned, rfl⟩
  rintro _ ⟨name, definition, t, -, rfl⟩ s ⟨turned, ticket⟩
  exact ⟨⟨⟨turned.mode, turned.state, turned.outstanding⟩, rfl⟩, ticket⟩

/-- **What looking at a finished run comes to**, after the session has turned to it. -/
inductive LooksUp (rt : AgentRuntime σ) (m : Monitor) (runId : String) (s : σ) :
    (Monitor × Except Error HistoricalRun) × σ → Prop
  /-- The run cannot be had. -/
  | lost {e : Error} {t : σ} (answer : rt.fetchRun runId s = (.error e, t)) :
    LooksUp rt m runId s
      (({ m with session := (m.session.loadHistorical runId).value }, .error e), t)
  /-- No definition can be shown for it. -/
  | hidden {run : HistoricalRun} {m' : Monitor} {e : Error} {t u : σ}
    (answer : rt.fetchRun runId s = (.ok run, t))
    (ensured : (ensureDefinition rt { m with session := (m.session.loadHistorical runId).value }
      run.workflowName t).value = ((m', .error e), u)) :
    LooksUp rt m runId s ((m', .error e), u)
  /-- The run is handed to the session, which still knows nothing of it. -/
  | shown {run : HistoricalRun} {m' : Monitor} {changed : Bool} {t u : σ}
    (answer : rt.fetchRun runId s = (.ok run, t))
    (ensured : (ensureDefinition rt { m with session := (m.session.loadHistorical runId).value }
      run.workflowName t).value = ((m', .ok changed), u))
    (turned : m'.session.TurnedTo runId) :
    LooksUp rt m runId s (({ m' with session := m'.session.taken runId run }, .ok run), u)

/-- Looking at a finished run comes to nothing else, and the run is never handed in too late. -/
theorem looksUp (rt : AgentRuntime σ) (m : Monitor) (runId : String) (s : σ) :
    LooksUp rt m runId s (loadHistoricalRun rt m runId s).value := by
  let turned : Monitor := { m with session := (m.session.loadHistorical runId).value }
  have atRun : turned.session.TurnedTo runId := m.session.turnedTo_loadHistorical runId
  show (loadHistoricalRun rt m runId).Ends s fun r t _ => LooksUp rt m runId s (r, t)
  unfold loadHistoricalRun
  simp only [Asking.ends_bind, Asking.ends_lift, Asking.ends_ask]
  rcases answer : rt.fetchRun runId s with ⟨_ | run, t⟩
  · exact .lost answer
  dsimp only
  rw [Asking.ends_bind]
  have led := Monitor.ends_ensureDefinition rt turned run.workflowName t
  change (ensureDefinition rt turned run.workflowName).Ends t _
  unfold Asking.Ends at led ⊢
  cases ensured : ensureDefinition rt turned run.workflowName t with
  | mk value said =>
  rw [ensured] at led
  obtain ⟨⟨m', result⟩, u⟩ := value
  have value := congrArg Publishing.value ensured
  obtain ⟨atRun, ticket⟩ := led.turnedTo atRun
  cases result with
  | error e => exact .hidden answer value
  | ok changed =>
    -- showing a definition begins no epoch, so the ticket taken after turning is still good
    have current : ¬((m.session.loadHistorical runId).value.beginFetch ≠ m'.session.beginFetch
        ∨ m'.session.state = .idle) :=
      Session.not_stale_iff.mpr ⟨ticket.symm, by rw [atRun.state]; nofun⟩
    have shown := LooksUp.shown answer value atRun
    dsimp only
    rw [Session.applySnapshot_of_historical current atRun.mode]
    unfold Session.taken at shown
    cases failed : run.isFailed with
    | false =>
      rw [failed] at shown
      exact shown
    | true =>
      rw [failed] at shown
      exact shown

/-! ## What is shown of a run -/

/-- **What looking at a finished run shows**: the run, and the definition that is resolved for
it. -/
def reviewed (definitions : String → Except Error Definition) (fallback : String)
    (answer : Except Error HistoricalRun) : Except Error (HistoricalRun × String × Definition) :=
  answer.bind fun run => (resolve definitions fallback run.workflowName).map (Prod.mk run)

/-- **A monitor has looked at a finished run**: it could not, or it shows what there is to be
seen. -/
def Reviewed (definitions : String → Except Error Definition) (config : AppConfig) (runId : String)
    (answer : Except Error HistoricalRun) (after : Monitor × Except Error HistoricalRun) : Prop :=
  (∃ e, reviewed definitions config.sync.defaultWorkflow answer = .error e ∧ after.2 = .error e)
    ∨ ∃ run shown definition,
      reviewed definitions config.sync.defaultWorkflow answer = .ok (run, shown, definition)
        ∧ after.2 = .ok run ∧ after.1.session.ShowsRun runId shown
          (Graph.build (Registry.ofConfig config) definition).graph run

/-- **What is shown of a finished run is worked out** from the run and the table. -/
theorem KeepsTo.reviews (h : KeepsTo config m log) (rt : AgentRuntime σ)
    (distinct : ∀ name definition, definitions name = .ok definition →
      ∀ d ∈ definition.nodes, d.properties.keys.Nodup) (runId : String) (s : σ) :
    (loadHistoricalRun rt.noting m runId).Ends (s, log) fun r t _ =>
      AnsweredFrom definitions t.2 →
        Reviewed definitions config runId (rt.fetchRun runId s).1 r := by
  have ready : KeepsTo config { m with session := (m.session.loadHistorical runId).value } log :=
    h.perform (.loadHistorical runId) rfl
  have asked {answer : Except Error HistoricalRun} {t : σ × List Fetch}
      (answered : rt.noting.fetchRun runId (s, log) = (answer, t)) :
      (rt.fetchRun runId s).1 = answer ∧ t = (t.1, log) := by
    obtain ⟨rfl, rfl⟩ := Prod.ext_iff.mp answered
    exact ⟨rfl, rfl⟩
  have looked := looksUp rt.noting m runId (s, log)
  unfold Asking.Ends
  generalize (loadHistoricalRun rt.noting m runId (s, log)).value = result at looked ⊢
  intro table
  cases looked with
  | lost answer =>
    obtain ⟨answer, -⟩ := asked answer
    exact Or.inl ⟨_, by rw [answer]; rfl, rfl⟩
  | @hidden run _ e t _ answer ensured =>
    obtain ⟨answer, unlogged⟩ := asked answer
    have resolves := ready.resolves definitions rt run.workflowName t.1
    unfold Asking.Ends at resolves
    rw [← unlogged, ensured] at resolves
    rcases resolves table with ⟨_, none, same⟩ | ⟨_, _, _, -, ok, -⟩
    · cases same
      exact Or.inl ⟨e, by rw [answer]; exact congrArg (Except.map (Prod.mk run)) none, rfl⟩
    · cases ok
  | @shown run _ _ t _ answer ensured turned =>
    obtain ⟨answer, unlogged⟩ := asked answer
    have resolves := ready.resolves definitions rt run.workflowName t.1
    unfold Asking.Ends at resolves
    rw [← unlogged, ensured] at resolves
    rcases resolves table with ⟨_, -, failed⟩ | ⟨name, definition, _, found, -, here, retains⟩
    · cases failed
    · have apart := Graph.distinctKeys_build (Registry.ofConfig config)
        (distinct name definition (definitions_of_resolve found))
      refine Or.inr ⟨run, name, definition, ?_, rfl, turned.shows here retains apart run⟩
      rw [answer]
      exact congrArg (Except.map (Prod.mk run)) found

/-- What a monitor that is reached shows of a finished run is worked out from the run and the
table, if all that it was answered about definitions comes from the table. -/
theorem reviewed_of_reached {rt : AgentRuntime σ} {s₀ : σ} {ops : List Operation} {w : Monitor × σ}
    (reached : (performAll rt (ofConfig config, s₀) ops).value = w) (runId : String)
    (table : AnsweredFrom definitions
      (fetches rt (ofConfig config, s₀) (ops ++ [.loadHistoricalRun runId])))
    (distinct : ∀ name definition, definitions name = .ok definition →
      ∀ d ∈ definition.nodes, d.properties.keys.Nodup) :
    Reviewed definitions config runId (rt.fetchRun runId w.2).1
      (loadHistoricalRun rt w.1 runId w.2).value.1 := by
  subst reached
  let w := (performAll rt (ofConfig config, s₀) ops).value
  let log := fetches rt (ofConfig config, s₀) ops
  have kept : KeepsTo config w.1 log := (KeepsTo.ofConfig config).performAll rt s₀ ops
  have reviewed : AnsweredFrom definitions
        (loadHistoricalRun rt.noting w.1 runId (w.2, log)).value.2.2 →
      Reviewed definitions config runId (rt.fetchRun runId w.2).1
        (loadHistoricalRun rt.noting w.1 runId (w.2, log)).value.1 :=
    kept.reviews rt distinct runId w.2
  have noted : (loadHistoricalRun rt.noting w.1 runId (w.2, log)).value.2.2
      = fetches rt (ofConfig config, s₀) (ops ++ [.loadHistoricalRun runId]) := by
    rw [fetches_append]
    exact congrArg (fun p => p.value.2.2) (performAll_noting rt w log [.loadHistoricalRun runId])
  have alike := noting_alike rt (P := fun _ => True) fun _ _ _ _ => trivial
  have value := (alike_loadHistoricalRun alike w.1 runId (w.2, log) w.2 ⟨rfl, trivial⟩).1
  rw [noted, value] at reviewed
  exact reviewed table

/-- **A historical view does not depend on what was shown before.** Two monitors of one
configuration may have been told anything, beside runtimes that have nothing in common but
what they answer about definitions and about one finished run. Then both can show that run
or neither can, for the same reason. If they can, both look at it, watch nothing and wait
at no gate. They show the same definition under the same name, with the same nodes and
edges, and for each node the same status and the same output. -/
theorem historical_views_are_alike {τ : Type} {rt : AgentRuntime σ} {rt' : AgentRuntime τ}
    {config : AppConfig} {s₀ : σ} {t₀ : τ} {ops ops' : List Operation} {w : Monitor × σ}
    {w' : Monitor × τ} (reached : (performAll rt (ofConfig config, s₀) ops).value = w)
    (reached' : (performAll rt' (ofConfig config, t₀) ops').value = w') (runId : String)
    (definitions : String → Except Error Definition)
    (same : ∀ f ∈ fetches rt (ofConfig config, s₀) (ops ++ [.loadHistoricalRun runId]),
      f.answer = definitions f.name)
    (same' : ∀ f ∈ fetches rt' (ofConfig config, t₀) (ops' ++ [.loadHistoricalRun runId]),
      f.answer = definitions f.name)
    (distinct : ∀ name definition, definitions name = .ok definition →
      ∀ d ∈ definition.nodes, d.properties.keys.Nodup)
    (answer : (rt.fetchRun runId w.2).1 = (rt'.fetchRun runId w'.2).1) :
    let after := (loadHistoricalRun rt w.1 runId w.2).value.1
    let after' := (loadHistoricalRun rt' w'.1 runId w'.2).value.1
    after.2 = after'.2 ∧ ∀ run, after.2 = .ok run →
      let s := after.1.session
      let s' := after'.1.session
      s.mode = s'.mode ∧ (s.state = .stopped ∧ s'.state = .stopped)
        ∧ (s.approvals.outstanding = none ∧ s'.approvals.outstanding = none)
        ∧ s.definitionName = s'.definitionName
        ∧ s.graph.ids = s'.graph.ids ∧ s.graph.edges = s'.graph.edges
        ∧ s.graph.view = s'.graph.view := by
  intro after after'
  have seen : Reviewed definitions config runId _ after :=
    reviewed_of_reached reached runId same distinct
  have seen' : Reviewed definitions config runId _ after' :=
    reviewed_of_reached reached' runId same' distinct
  rw [← answer] at seen'
  rcases seen with ⟨e, lost, failed⟩ | ⟨run, name, definition, found, ok, shows⟩
  · rcases seen' with ⟨e', lost', failed'⟩ | ⟨_, _, _, found', -⟩
    · cases lost.symm.trans lost'
      refine ⟨failed.trans failed'.symm, fun run ok => ?_⟩
      cases failed.symm.trans ok
    · cases lost.symm.trans found'
  · rcases seen' with ⟨e', lost', -⟩ | ⟨_, _, _, found', ok', shows'⟩
    · cases found.symm.trans lost'
    · cases found.symm.trans found'
      have silent := shows.silent.trans shows'.silent.symm
      refine ⟨ok.trans ok'.symm, fun _ _ => ⟨?_, ?_, ?_, ?_, ?_, ?_, ?_⟩⟩
      · exact shows.mode.trans shows'.mode.symm
      · exact ⟨shows.state, shows'.state⟩
      · exact ⟨shows.outstanding, shows'.outstanding⟩
      · exact shows.definition.trans shows'.definition.symm
      · rw [← Graph.ids_silent, silent, Graph.ids_silent]
      · rw [← Graph.edges_silent, silent, Graph.edges_silent]
      · exact shows.view.trans shows'.view.symm

/-- A run that failed before its gate is shown alike by a monitor that stands at that gate in a
live run and by one that was told nothing. -/
theorem historical_views_are_alike_at_gate :
    let run : HistoricalRun := ⟨none, "loop", {}, some "FAILED", none⟩
    let live := InMemory.runtime.frozen (InMemory.atGate.addRun "old" run)
    let idle := InMemory.runtime.frozen ({ InMemory.atGate with standing := [] }.addRun "old" run)
    let w := (performAll live (ofConfig {}, ()) [.start, .tick]).value
    let w' := (performAll idle (ofConfig {}, ()) []).value
    let after := (loadHistoricalRun live w.1 "old" w.2).value.1
    let after' := (loadHistoricalRun idle w'.1 "old" w'.2).value.1
    w.1.session.state = .gateActive ∧ after.2 = .ok run ∧ after'.2 = .ok run
      ∧ after.1.session.graph.view = [("gate", .failed, none)]
      ∧ after'.1.session.graph.view = [("gate", .failed, none)] := by
  intro run live idle w w' after after'
  let definitions (name : String) : Except Error Definition :=
    (InMemory.atGate.definitions.lookup name).elim (.error (InMemory.notFound name)) .ok
  have distinct (name : String) (definition : Definition)
      (known : definitions name = .ok definition) :
      ∀ d ∈ definition.nodes, d.properties.keys.Nodup := by
    change ([("loop", Definition.singleGate)].lookup name).elim
      (.error (InMemory.notFound name)) .ok = Except.ok definition at known
    rw [List.lookup_cons] at known
    split at known
    · obtain rfl := Except.ok.inj known
      decide
    · cases known
  have same : AnsweredFrom definitions
      (fetches live (ofConfig {}, ()) ([.start, .tick] ++ [.loadHistoricalRun "old"])) :=
    answeredFrom_fetches (fun _ _ => rfl) _ _
  have same' : AnsweredFrom definitions
      (fetches idle (ofConfig {}, ()) ([] ++ [.loadHistoricalRun "old"])) :=
    answeredFrom_fetches (fun _ _ => rfl) _ _
  have waits : w.1.session.state = .gateActive := by
    let started := (performAll live (ofConfig {}, ()) [.start]).value
    have polled := tick_of_fetched live (m := started.1) (s := started.2) rfl rfl rfl
      (by decide +kernel) rfl
    rw [report_singleGate rfl rfl] at polled
    have last (u : Monitor × Unit) :
        (performAll live u [.tick]).value.1 = (tick live u.1 u.2).value.1.1 := rfl
    have reached : w.1 = (tick live started.1 started.2).value.1.1 := by
      rw [← last, ← value_performAll_append]
      rfl
    rw [reached, polled]
    decide +kernel
  have answer : (live.fetchRun "old" w.2).1 = .ok run := rfl
  have reached : (performAll live (ofConfig {}, ()) [.start, .tick]).value = w := rfl
  have reached' : (performAll idle (ofConfig {}, ()) []).value = w' := rfl
  clear_value w w'
  obtain ⟨equal, alike⟩ := historical_views_are_alike reached reached' "old" definitions same same'
    distinct answer
  have seen : Reviewed definitions {} "old" _ after :=
    reviewed_of_reached reached "old" same distinct
  rw [answer] at seen
  have resolved : reviewed definitions ({} : SyncConfig).defaultWorkflow (.ok run)
      = .ok (run, "loop", .singleGate) := rfl
  rcases seen with ⟨e, lost, -⟩ | ⟨_, name, definition, found, ok, shows⟩
  · cases resolved.symm.trans lost
  · cases resolved.symm.trans found
    have failed : after.1.session.graph.view = [("gate", .failed, none)] :=
      shows.view.trans rfl
    obtain ⟨-, -, -, -, -, -, view⟩ := alike run ok
    exact ⟨waits, ok, equal.symm.trans ok, failed, view.symm.trans failed⟩

end Monitor

end AgentWorkflow
