import AgentWorkflow.AgentRuntime.InMemory
import AgentWorkflow.Proofs.GateAnswers
import AgentWorkflow.Proofs.GateCoherence

/-!
# A snapshot decides which gate waits

A monitor has been through a lot before a snapshot arrives: gates of this run
or of others were raised, answered, passed and dropped, and the graph that is
shown may change within the very poll that brings the snapshot. Once the
snapshot has been taken over, nothing of this matters for the gate that waits,
apart from the answers: one waits if the node that ran last is a gate of the
graph shown and was not answered since everything was last forgotten, and it is
that one.

**Which graph.** The gate is looked for after nodes were marked, and its own
mark is put on afterwards, so the graph in which it was found is not the graph
that is shown in the end. The two differ in marks only
(`Graph.SameTypes`), and whether a node is a gate is decided by its type.

**Which poll.** A poll may show another definition before it hands the snapshot
in. That touches no gate, so the session which takes the snapshot over knows
about its gates what the monitor knew before (`Monitor.tick_of_applied`).
-/

namespace AgentWorkflow

namespace Graph

/-- The node of an id is a gate. -/
def HasGate (g : Graph) (gateType id : String) : Prop :=
  ∃ n, g.node? id = some n ∧ n.bareType = gateType

/-- A node is a gate if it is there and has the type of gates. -/
theorem map_bareType_eq_some_iff {g : Graph} {gateType id : String} :
    (g.node? id).map Node.bareType = some gateType ↔ g.HasGate gateType id :=
  Option.map_eq_some_iff

instance (g : Graph) (gateType id : String) : Decidable (g.HasGate gateType id) :=
  decidable_of_iff _ map_bareType_eq_some_iff

/-! ## Marks leave types alone -/

/-- **The same nodes of the same types.** -/
def SameTypes (g h : Graph) : Prop :=
  ∀ id, (h.node? id).map Node.bareType = (g.node? id).map Node.bareType

namespace SameTypes

variable {f g h : Graph}

theorem refl (g : Graph) : g.SameTypes g := fun _ => rfl

theorem trans (first : f.SameTypes g) (second : g.SameTypes h) : f.SameTypes h :=
  fun id => (second id).trans (first id)

theorem hasGate_iff (same : g.SameTypes h) {gateType id : String} :
    h.HasGate gateType id ↔ g.HasGate gateType id := by
  rw [← map_bareType_eq_some_iff, ← map_bareType_eq_some_iff, same id]

end SameTypes

theorem sameTypes_mapNodes (g : Graph) {change : Node → Node}
    (keeps : ∀ n, (change n).nodeType = n.nodeType) : g.SameTypes (g.mapNodes change) := by
  intro id
  rw [node?_mapNodes, Option.map_map]
  refine congrArg (fun f => (g.node? id).map f) (funext fun n => ?_)
  show String.ofList (Node.bareName (change n).nodeType.toList) = _
  rw [keeps]
  rfl

theorem sameTypes_updateNode (g : Graph) (id : String) {change : Node → Node}
    (keeps : ∀ n, (change n).nodeType = n.nodeType) : g.SameTypes (g.updateNode id change) := by
  refine sameTypes_mapNodes g fun n => ?_
  split
  · exact keeps n
  · rfl

end Graph

namespace Session

variable {s : Session} {requestId : String} {snapshot : Snapshot}

theorem sameTypes_freedGraph (s : Session) : s.graph.SameTypes s.freedGraph := by
  unfold freedGraph
  split
  · exact .refl s.graph
  · refine s.graph.sameTypes_updateNode _ fun n => ?_
    split <;> rfl

theorem sameTypes_raised (s : Session) (r : ApprovalRequest) :
    s.graph.SameTypes (s.raised r).graph :=
  s.sameTypes_freedGraph.trans
    (s.freedGraph.sameTypes_updateNode r.nodeId fun _ => rfl)

/-! ## What a snapshot that is taken over leaves behind -/

/-- A run waits at the node that ran last, if that node is a gate. -/
theorem waitingGate?_eq_some_iff {nodeId : String} :
    s.waitingGate? snapshot = some nodeId
      ↔ snapshot.lastExecuted = some nodeId ∧ s.graph.HasGate s.gateType nodeId := by
  unfold waitingGate? Graph.HasGate
  cases snapshot.lastExecuted with
  | none => simp
  | some last =>
    rw [Option.bind_eq_bind, Option.bind_some, Option.some.injEq]
    constructor
    · intro h
      obtain ⟨n, found, gate⟩ := Option.bind_eq_some_iff.mp h
      split at gate
      · next type =>
        obtain rfl : last = nodeId := Option.some.inj gate
        exact ⟨rfl, n, found, type⟩
      · cases gate
    · rintro ⟨rfl, n, found, type⟩
      rw [found, Option.bind_eq_bind, Option.bind_some, if_pos type]
      rfl

/-- **The snapshot finds the run at a gate** that nobody has answered. -/
def Finds (s : Session) (g : Graph) (requestId : String) (snapshot : Snapshot)
    (gate : String × String) : Prop :=
  gate.1 = requestId ∧ snapshot.lastExecuted = some gate.2 ∧ g.HasGate s.gateType gate.2
    ∧ gate ∉ s.approvals.resolved

/-- What is found can be found in any graph of the same types. -/
theorem finds_congr {g h : Graph} (same : g.SameTypes h) (gate : String × String) :
    s.Finds h requestId snapshot gate ↔ s.Finds g requestId snapshot gate := by
  unfold Finds
  rw [same.hasGate_iff]

theorem state_eq_polling (h : s.gateView.Coherent) (watched : s.isPolling)
    (none : s.approvals.outstanding = none) : s.state = .polling := by
  rcases of_decide_eq_true watched with polling | gate
  · exact polling
  · obtain ⟨r, waiting⟩ := Option.isSome_iff_exists.mp (h.waits gate)
    exact absurd (none.symm.trans waiting) nofun

theorem state_eq_gateActive (h : s.gateView.Coherent) (watched : s.isPolling)
    {r : ApprovalRequest} (waiting : s.approvals.outstanding = some r) :
    s.state = .gateActive := by
  rcases of_decide_eq_true watched with polling | gate
  · exact absurd (waiting.symm.trans (h.none_waits (Or.inl polling))) nofun
  · exact gate

theorem live_of_isPolling (h : s.gateView.Coherent) (watched : s.isPolling) : s.mode = .live := by
  rcases of_decide_eq_true watched with polling | gate
  · exact h.live polling
  · exact h.live_of_gateActive gate

theorem finds_marked_iff (gate : String × String) :
    s.Finds (s.marked requestId snapshot).graph requestId snapshot gate
      ↔ gate.1 = requestId ∧ (s.marked requestId snapshot).waitingGate? snapshot = some gate.2
        ∧ gate ∉ s.approvals.resolved := by
  unfold Finds
  rw [waitingGate?_eq_some_iff, and_assoc]
  rfl

/-- At most one gate is found. -/
theorem eq_iff_finds_marked {nodeId : String}
    (found : (s.marked requestId snapshot).waitingGate? snapshot = some nodeId)
    (fresh : (requestId, nodeId) ∉ s.approvals.resolved) (gate : String × String) :
    some (requestId, nodeId) = some gate
      ↔ s.Finds (s.marked requestId snapshot).graph requestId snapshot gate := by
  rw [finds_marked_iff]
  constructor
  · rintro ⟨⟩
    exact ⟨rfl, found, fresh⟩
  · rintro ⟨run, other, -⟩
    obtain rfl : nodeId = gate.2 := Option.some.inj (found.symm.trans other)
    rw [← run]

/-- **After gates were looked for, the one that is found waits**, whichever
waited before, and the state says whether one does. -/
theorem detectGate_finds (h : s.gateView.Coherent) (watched : s.isPolling) :
    let after := ((s.marked requestId snapshot).detectGate requestId snapshot).value.1
    (∀ gate, after.WaitsAt gate ↔ s.Finds after.graph requestId snapshot gate)
      ∧ after.state = if after.approvals.outstanding.isSome then .gateActive else .polling := by
  let m := s.marked requestId snapshot
  intro after
  rcases m.detectGate_cases requestId snapshot with
    ⟨answered, passed⟩ | ⟨nodeId, found, ⟨waiting, waits⟩ | ⟨-, fresh, raised⟩⟩
  · have value : after = m.passed := by
      rw [← value_passGate, ← passed]
    have types : m.graph.SameTypes m.passed.graph := m.sameTypes_freedGraph
    rw [value]
    refine ⟨fun gate => ?_, ?_⟩
    · rw [finds_congr types gate, finds_marked_iff]
      refine ⟨nofun, fun ⟨run, found, fresh⟩ => ?_⟩
      obtain ⟨requestId', nodeId⟩ := gate
      obtain rfl : requestId' = requestId := run
      exact absurd (answered nodeId found) fresh
    · show (if s.approvals.outstanding.isSome then SessionState.polling else s.state) = .polling
      split
      · rfl
      · next none => exact state_eq_polling h watched (Option.not_isSome_iff_eq_none.mp none)
  · have value : after = m := congrArg (fun p => p.value.1) waits
    obtain ⟨r, hr, hgate⟩ := Option.map_eq_some_iff.mp waiting
    -- the gate that waits was not answered, although nobody has looked
    have fresh : (requestId, nodeId) ∉ s.approvals.resolved := hgate ▸ (h.of_waiting r hr).2.2
    rw [value]
    refine ⟨fun gate => ?_, ?_⟩
    · rw [← eq_iff_finds_marked found fresh gate, ← waiting]
      exact Iff.rfl
    · rw [hr]
      show s.state = .gateActive
      exact state_eq_gateActive h watched hr
  · have value : after = m.raised (requestAt requestId nodeId snapshot) :=
      congrArg (fun p => p.value.1) raised
    rw [value]
    refine ⟨fun gate => ?_, rfl⟩
    rw [finds_congr (m.sameTypes_raised _) gate, ← eq_iff_finds_marked found fresh gate]
    exact Iff.rfl

/-- **What a snapshot that is taken over leaves behind**: its run is the one
that is watched, the gate that is found waits, and the state says whether one
does. -/
theorem applySnapshot_finds {ticket : FetchTicket} {statusesChanged : Bool} {change : GateChange}
    (h : s.gateView.Coherent) (watched : s.isPolling)
    (taken : (s.applySnapshot ticket requestId snapshot).value.2
      = .applied statusesChanged change) :
    let after := (s.applySnapshot ticket requestId snapshot).value.1
    after.requestId = some requestId
      ∧ (∀ gate, after.WaitsAt gate ↔ s.Finds after.graph requestId snapshot gate)
      ∧ after.state = if after.approvals.outstanding.isSome then .gateActive else .polling := by
  have current : ¬(ticket ≠ s.beginFetch ∨ s.state = .idle) := by
    intro stale
    rw [applySnapshot_of_stale stale] at taken
    cases taken
  rw [applySnapshot_of_live current (live_of_isPolling h watched)]
  have run := ((s.marked requestId snapshot).detectGate_keeps requestId snapshot).1
  exact ⟨run, detectGate_finds h watched⟩

/-! ## What no operation changes -/

theorem gateType_perform (s : Session) (op : Operation) :
    (s.perform op).value.gateType = s.gateType := by
  cases op with
  | startPolling =>
    unfold perform startPolling
    rw [value_transition]
  | stopPolling =>
    unfold perform stopPolling
    rw [value_transition]
  | dispose =>
    unfold perform dispose
    rw [value_transition]
  | loadHistorical runId =>
    unfold perform loadHistorical
    rw [Publishing.value_bind, value_transition]
  | loadDefinition name report => rfl
  | applySnapshot ticket requestId snapshot =>
    rw [perform, Publishing.value_map]
    by_cases stale : ticket ≠ s.beginFetch ∨ s.state = .idle
    · rw [applySnapshot_of_stale stale]
      rfl
    cases mode : s.mode with
    | live =>
      rw [applySnapshot_of_live stale mode]
      exact ((s.marked requestId snapshot).detectGate_keeps requestId snapshot).2
    | historical runId =>
      rw [applySnapshot_of_historical stale mode]
      rfl
  | markFailedFrontier snapshot =>
    rw [perform, Publishing.value_map]
    unfold markFailedFrontier
    split <;> rfl
  | completeApproval requestId approved =>
    rcases s.approvals.waits_or_absent requestId with ⟨r, waiting, rfl⟩ | absent
    · rw [perform_completeApproval_of_waiting approved waiting]
      rfl
    · rw [perform_completeApproval_of_absent approved absent]
      rfl
  | clearInstance =>
    cases watched : s.requestId with
    | none =>
      unfold perform clearInstance
      rw [watched]
      rfl
    | some requestId =>
      unfold perform
      rw [clearInstance_of_watched watched]
  | editGraph change => rfl

end Session

namespace Monitor

variable {σ : Type} {rt : AgentRuntime σ}

/-! ## A poll -/

/-- The operation shows a definition. -/
def ShowsDefinition (op : Session.Operation) : Prop :=
  ∃ name report, op = .loadDefinition name report

theorem gates_of_definitions {m m' : Monitor} {said : List Event}
    (h : Leads ShowsDefinition m said m') :
    m'.session.gateView = m.session.gateView ∧ m'.session.gateType = m.session.gateType := by
  refine h.keeps (P := fun s => s.gateView = m.session.gateView
    ∧ s.gateType = m.session.gateType) ?_ ⟨rfl, rfl⟩
  rintro _ ⟨name, report, rfl⟩ s hs
  exact hs

/-- **A poll that takes a snapshot over** has shown definitions before and does
nothing else. -/
theorem tick_of_taken {m : Monitor} {s : σ} {first : ActiveInstance}
    {rest : List ActiveInstance} {outcome : ApplyOutcome}
    (reported : (rt.fetchActive s).1 = .ok (first :: rest))
    (applied : (tick rt m s).value.1.2 = .applied outcome) :
    m.session.isPolling ∧ ∃ said shown, Leads (ShowsFetched rt m) m said shown
      ∧ (tick rt m s).value.1.1.session
        = (shown.session.applySnapshot m.session.beginFetch first.requestId
            first.snapshot).value.1
      ∧ (shown.session.applySnapshot m.session.beginFetch first.requestId
          first.snapshot).value.2 = outcome := by
  have key : (tick rt m).Ends s fun r _ _ => r.2 = .applied outcome →
      m.session.isPolling ∧ ∃ said shown, Leads (ShowsFetched rt m) m said shown
        ∧ r.1.session
          = (shown.session.applySnapshot m.session.beginFetch first.requestId
              first.snapshot).value.1
        ∧ (shown.session.applySnapshot m.session.beginFetch first.requestId
            first.snapshot).value.2 = outcome := by
    unfold tick
    split
    · intro h
      cases h
    next watched =>
    simp only [Asking.ends_bind, Asking.ends_ask, reported, Asking.ends_lift, value_restore]
    refine (ends_ensureDefinition rt _ _ _).mono fun ⟨m', result⟩ t said shown => ?_
    cases result with
    | error e =>
      simp only [Asking.ends_bind, Asking.ends_lift, Asking.ends_pure]
      intro h
      cases h
    | ok _ =>
      simp only [Asking.ends_bind, Asking.ends_lift, Asking.ends_pure]
      intro h
      exact ⟨by simpa using watched, said, m', shown, rfl, TickOutcome.applied.inj h⟩
  exact key applied

theorem tick_of_applied {m : Monitor} {s : σ} {first : ActiveInstance}
    {rest : List ActiveInstance} {outcome : ApplyOutcome}
    (reported : (rt.fetchActive s).1 = .ok (first :: rest))
    (applied : (tick rt m s).value.1.2 = .applied outcome) :
    m.session.isPolling ∧ ∃ shown : Session,
      shown.gateView = m.session.gateView ∧ shown.gateType = m.session.gateType
        ∧ (tick rt m s).value.1.1.session
          = (shown.applySnapshot m.session.beginFetch first.requestId first.snapshot).value.1
        ∧ (shown.applySnapshot m.session.beginFetch first.requestId first.snapshot).value.2
          = outcome := by
  obtain ⟨watched, said, shown, led, value, taken⟩ := tick_of_taken reported applied
  have definitions : Leads ShowsDefinition m said shown :=
    led.of_fetched fun name report => ⟨name, report, rfl⟩
  obtain ⟨view, type⟩ := gates_of_definitions definitions
  exact ⟨watched, shown.session, view, type, value, taken⟩

/-- **A poll shows the gate that the run waits at, unless it was answered.**
Whatever a monitor was told before, once a poll has taken a snapshot over, its
run is the one that is watched, a gate waits if and only if the node that ran
last is a gate of the graph shown and was not answered since everything was last
forgotten, and the state says whether one does. -/
theorem polled_gate_waits_iff_unanswered (rt : AgentRuntime σ) (config : AppConfig) (s₀ : σ)
    (ops : List Operation) {m : Monitor} {s : σ} {first : ActiveInstance}
    {rest : List ActiveInstance} {statusesChanged : Bool} {change : GateChange}
    (reached : (performAll rt (ofConfig config, s₀) ops).value = (m, s))
    (reported : (rt.fetchActive s).1 = .ok (first :: rest))
    (applied : (tick rt m s).value.1.2 = .applied (.applied statusesChanged change)) :
    let after := (tick rt m s).value.1.1.session
    after.requestId = some first.requestId
      ∧ (∀ gate : String × String, after.WaitsAt gate
          ↔ gate.1 = first.requestId ∧ first.snapshot.lastExecuted = some gate.2
            ∧ after.graph.HasGate config.sync.gateType gate.2
            ∧ ¬Answered rt (ofConfig config, s₀) ops gate)
      ∧ after.state = if after.approvals.outstanding.isSome then .gateActive else .polling := by
  intro after
  have led := performAll_leads rt (ofConfig config, s₀) ops
  have answered := mem_resolved_iff_answered rt (w := (ofConfig config, s₀)) rfl ops
  rw [reached] at led answered
  have coherent : m.session.gateView.Coherent :=
    led.keeps (P := fun s => s.gateView.Coherent) (fun op _ s h => h.turn (s.perform_turn op))
      (Session.coherent_initial config.sync.gateType)
  have type : m.session.gateType = config.sync.gateType :=
    led.keeps (P := fun s => s.gateType = config.sync.gateType)
      (fun op _ s h => (s.gateType_perform op).trans h) rfl
  obtain ⟨watched, shown, view, type', value, outcome⟩ := tick_of_applied reported applied
  have approvals : shown.approvals = m.session.approvals := congrArg GateView.approvals view
  have state : shown.state = m.session.state := congrArg GateView.state view
  have watched' : shown.isPolling := by
    unfold Session.isPolling
    rw [state]
    exact watched
  obtain ⟨run, waits, stands⟩ := Session.applySnapshot_finds (view ▸ coherent) watched' outcome
  have same : after = _ := value
  rw [same]
  refine ⟨run, fun gate => (waits gate).trans ?_, stands⟩
  unfold Session.Finds
  rw [approvals, type', type, answered]

/-! ## The smallest poll that finds a gate -/

/-- What a definition is shown as, if it can be laid out. -/
theorem report_of_layout {m : Monitor} {definition : Definition} {layout : Layout}
    (laid : (Graph.build m.registry definition).graph.layout m.layout = .ok layout) :
    m.report definition
      = { Graph.build m.registry definition with
          graph := (Graph.build m.registry definition).graph.applyLayout layout } := by
  unfold report
  simp only [laid]

/-- **A poll that can have the definition of the first run** shows it and takes
the snapshot over. -/
theorem tick_of_fetched (rt : AgentRuntime σ) {m : Monitor} {s : σ} {first : ActiveInstance}
    {rest : List ActiveInstance} {definition : Definition} {name : String}
    (watched : m.session.isPolling) (reported : (rt.fetchActive s).1 = .ok (first :: rest))
    (named : first.snapshot.workflowName.getD m.sync.defaultWorkflow = name)
    (other : m.requested ≠ some name)
    (fetched : (rt.fetchDefinition name (rt.fetchActive s).2).1 = .ok definition) :
    let shown := (m.session.loadDefinition name (m.report definition)).value
    let taken := shown.applySnapshot m.session.beginFetch first.requestId first.snapshot
    (tick rt m s).value.1
      = ({ m with session := taken.value.1, requested := some name, degraded := false },
          .applied taken.value.2) := by
  intro shown taken
  show (tick rt m).Ends s fun r _ _ => r = _
  unfold tick
  rw [watched, Bool.not_true, if_neg Bool.false_ne_true]
  simp only [Asking.ends_bind, Asking.ends_ask, reported, Asking.ends_lift, value_restore, named]
  unfold ensureDefinition
  simp only [other, false_and, if_false, Asking.ends_bind, Asking.ends_ask, fetched,
    Asking.ends_lift, Asking.ends_pure]
  rfl

end Monitor

theorem Graph.ranks_of_alone {g : Graph} {n : Node} (alone : g.nodes = [n])
    (reads : n.predecessors = []) : g.ranks = .ok [(n.id, 0)] := by
  have ids : g.ids = [n.id] := by
    unfold Graph.ids
    rw [alone]
    rfl
  have enter : Frame.enter g n.id = { id := n.id, pending := [] } := by
    unfold Frame.enter node?
    rw [alone]
    simp [reads]
  have search : Search.visit g [] n.id = .ok [(n.id, .done 0), (n.id, .inProgress)] := by
    show Search.run g (Search.push g ⟨[], []⟩ n.id) = _
    unfold Search.push
    rw [enter, Search.run]
    simp only [List.cons_ne_nil, dite_false, Search.step]
    rw [Search.run]
    simp [Search.raise]
  unfold Graph.ranks
  rw [ids, List.foldlM_cons, search]
  simp [Except.map, bind, Except.bind, pure, Except.pure, Mark.rank]

/-- A definition with a gate and nothing else. -/
def Definition.singleGate : Definition := { nodes := [{ id := "gate", nodeType := "GateNode" }] }

/-- A runtime with one run, which waits at that gate. -/
def InMemory.atGate : InMemory where
  definitions := [("loop", .singleGate)]
  standing := [⟨"run", { Snapshot.atGate with workflowName := some "loop" }⟩]

namespace Monitor

/-- The first poll of a run that is at a gate finds it. -/
theorem polled_gate_waits_iff_unanswered_at_gate :
    let w := (performAll InMemory.runtime (ofConfig {}, InMemory.atGate) [.start]).value
    (tick InMemory.runtime w.1 w.2).value.1.2 = .applied (.applied true .requested)
      ∧ (tick InMemory.runtime w.1 w.2).value.1.1.session.WaitsAt ("run", "gate") := by
  intro w
  let built := Graph.build (Registry.ofConfig {}) .singleGate
  have layout : built.graph.layout {} = .ok (.ofRanks {} [("gate", 0)]) := by
    let node := built.graph.nodes.head (by decide +kernel)
    have id : node.id = "gate" := by decide +kernel
    unfold Graph.layout
    rw [Graph.ranks_of_alone (n := node) rfl rfl, id]
  have registry : w.1.registry = Registry.ofConfig {} := rfl
  have distances : w.1.layout = {} := rfl
  have laid : (Graph.build w.1.registry .singleGate).graph.layout w.1.layout
      = .ok (.ofRanks {} [("gate", 0)]) := by
    rw [registry, distances]
    exact layout
  have polled := tick_of_fetched InMemory.runtime (m := w.1) (s := w.2) rfl rfl rfl
    (by decide +kernel) rfl
  rw [report_of_layout laid, registry] at polled
  have applied : (tick InMemory.runtime w.1 w.2).value.1.2
      = .applied (.applied true .requested) := by
    rw [polled]
    decide +kernel
  have isGate : (tick InMemory.runtime w.1 w.2).value.1.1.session.graph.HasGate "GateNode"
      "gate" := by
    rw [polled]
    decide +kernel
  have unanswered : ¬Answered InMemory.runtime (ofConfig {}, InMemory.atGate) [.start]
      ("run", "gate") := by
    rintro ⟨u, op, v, split, ⟨requestId, approved, _, rfl, _⟩, _⟩
    have mem : Operation.submitApproval requestId approved ∈ [Operation.start] :=
      split ▸ List.mem_append_right u List.mem_cons_self
    simp at mem
  obtain ⟨-, waits, -⟩ :=
    polled_gate_waits_iff_unanswered InMemory.runtime {} InMemory.atGate [.start]
      (m := w.1) (s := w.2) rfl rfl applied
  exact ⟨applied, (waits ("run", "gate")).mpr ⟨rfl, rfl, isGate, unanswered⟩⟩

end Monitor

end AgentWorkflow
