import AgentWorkflow.Proofs.Asking
import AgentWorkflow.Proofs.SessionRuns

/-!
# Runs of a monitor

Everything a monitor can be told to do, as one type of operations, and what a
run of them does to a monitor and its runtime. A runtime is any machine that
answers questions, in any state, so a run over an arbitrary runtime is a run
over arbitrary answers, given in any order and at any time.

**A monitor is a session that is driven.** Whatever a monitor does to its
session is a run of session operations, and all it says besides is whether the
runtime can be reached. `Monitor.Leads` states this, with the kinds of session
operations that each operation of the monitor causes
(`Monitor.Operation.Causes`): no monitor edits a graph, only an answer records
one, and only being told to forget everything makes it forget. So whatever the
operations of a session keep, every monitor keeps.

Some things are kept only if what the runtime answers is in order. For these it
matters which definitions are shown and which snapshots are handed in, and the
lemmas on single operations say it (`Monitor.ShowsFetched`, `Monitor.Polls`,
`Monitor.Reviews`).
-/

namespace AgentWorkflow

/-- Whether an event tells of the connection to the runtime. -/
def Event.isConnection : Event → Bool
  | .connectionDegraded _ | .connectionRestored => true
  | _ => false

namespace Monitor

/-- **What a monitor can be told.** -/
inductive Operation where
  /-- Watch live runs. -/
  | start
  /-- Watch no more. -/
  | stop
  /-- Show nothing and forget everything. -/
  | dispose
  /-- Poll once. -/
  | tick
  /-- Begin to poll, and give up while a definition is on its way. -/
  | abandonTick
  /-- Poll so many times, then watch no more. -/
  | run (ticks : Nat)
  /-- Show a definition. -/
  | ensureDefinition (name : String)
  /-- Show how a finished run ended. -/
  | loadHistoricalRun (runId : String)
  /-- Ask for the history. -/
  | fetchHistory
  /-- Answer the gate that waits. -/
  | submitApproval (requestId : String) (approved : Bool)
  /-- Save the graph that is shown. -/
  | save (name : String)

variable {σ : Type}

/-- A poll that is given up while a definition is on its way, as happens when
watching is called off in the middle of one. All it has done by then is to note
whether the runtime can be reached. -/
def abandonTick (rt : AgentRuntime σ) (m : Monitor) : Asking σ Monitor := do
  if !m.session.isPolling then return m
  match ← Asking.ask rt.fetchActive with
  | .error e => m.degrade e
  | .ok _ => m.restore

/-- What an operation is for a monitor. -/
def obey (rt : AgentRuntime σ) (m : Monitor) : Operation → Asking σ Monitor
  | .start => start rt m
  | .stop => liftM m.stop
  | .dispose => liftM m.dispose
  | .tick => Prod.fst <$> tick rt m
  | .abandonTick => abandonTick rt m
  | .run ticks => run rt m ticks
  | .ensureDefinition name => Prod.fst <$> ensureDefinition rt m name
  | .loadHistoricalRun runId => Prod.fst <$> loadHistoricalRun rt m runId
  | .fetchHistory => (fun _ => m) <$> fetchHistory rt m
  | .submitApproval requestId approved => Prod.fst <$> submitApproval rt m requestId approved
  | .save name => (fun _ => m) <$> save rt m name

/-- **One operation** of a monitor beside its runtime. -/
def perform (rt : AgentRuntime σ) (w : Monitor × σ) (op : Operation) : Publishing (Monitor × σ) :=
  obey rt w.1 op w.2

/-- **A run**: one operation after the other. -/
def performAll (rt : AgentRuntime σ) (w : Monitor × σ) (ops : List Operation) :
    Publishing (Monitor × σ) :=
  ops.foldlM (perform rt) w

theorem value_performAll_append (rt : AgentRuntime σ) (w : Monitor × σ) (u v : List Operation) :
    (performAll rt w (u ++ v)).value = (performAll rt (performAll rt w u).value v).value :=
  Publishing.value_foldlM_append (perform rt) w u v

/-- What is done to the session when a monitor obeys. -/
inductive Operation.Causes : Operation → Session.Operation → Prop
  | start : Causes .start .startPolling
  | startDefinition (name : String) (report : Graph.Report) :
    Causes .start (.loadDefinition name report)
  | stop : Causes .stop .stopPolling
  | dispose : Causes .dispose .dispose
  | tickGone : Causes .tick .clearInstance
  | tickDefinition (name : String) (report : Graph.Report) :
    Causes .tick (.loadDefinition name report)
  | tickSnapshot (ticket : FetchTicket) (requestId : String) (snapshot : Snapshot) :
    Causes .tick (.applySnapshot ticket requestId snapshot)
  | runTick (ticks : Nat) {op : Session.Operation} (tick : Causes .tick op) : Causes (.run ticks) op
  | runStop (ticks : Nat) : Causes (.run ticks) .stopPolling
  | definition (asked name : String) (report : Graph.Report) :
    Causes (.ensureDefinition asked) (.loadDefinition name report)
  | historical (runId : String) : Causes (.loadHistoricalRun runId) (.loadHistorical runId)
  | historicalDefinition (runId name : String) (report : Graph.Report) :
    Causes (.loadHistoricalRun runId) (.loadDefinition name report)
  | historicalSnapshot (runId : String) (ticket : FetchTicket) (snapshot : Snapshot) :
    Causes (.loadHistoricalRun runId) (.applySnapshot ticket runId snapshot)
  | historicalFailure (runId : String) (snapshot : Snapshot) :
    Causes (.loadHistoricalRun runId) (.markFailedFrontier snapshot)
  | answer (requestId : String) (approved : Bool) :
    Causes (.submitApproval requestId approved) (.completeApproval requestId approved)

/-- What is said apart from news of the connection. -/
def spoken (events : List Event) : List Event := events.filter fun e => !e.isConnection

/-- **One monitor leads to another** by session operations of the given kinds,
and says what they say, apart from news of the connection. -/
def Leads (allowed : Session.Operation → Prop) (m : Monitor) (said : List Event) (m' : Monitor) :
    Prop :=
  ∃ ops, (∀ op ∈ ops, allowed op) ∧ m'.session = (m.session.performAll ops).value
    ∧ spoken said = spoken (m.session.performAll ops).events

namespace Leads

variable {allowed : Session.Operation → Prop} {m m' m'' : Monitor} {said more : List Event}

/-- Without a word about the session nothing has happened to it. -/
theorem of_eq (same : m'.session = m.session) (silent : spoken said = []) :
    Leads allowed m said m' :=
  ⟨[], nofun, same, silent⟩

theorem of_perform {op : Session.Operation} (ok : allowed op)
    (value : m'.session = (m.session.perform op).value)
    (events : said = (m.session.perform op).events) : Leads allowed m said m' := by
  have one : m.session.performAll [op] = m.session.perform op := by
    unfold Session.performAll
    rw [List.foldlM_cons]
    exact bind_pure _
  refine ⟨[op], fun o ho => List.mem_singleton.mp ho ▸ ok, ?_, ?_⟩
  · rw [one, value]
  · rw [one, events]

theorem trans (first : Leads allowed m said m') (second : Leads allowed m' more m'') :
    Leads allowed m (said ++ more) m'' := by
  obtain ⟨ops, hops, value, events⟩ := first
  obtain ⟨ops', hops', value', events'⟩ := second
  refine ⟨ops ++ ops', fun op h => ?_, ?_, ?_⟩
  · exact (List.mem_append.mp h).elim (hops op) (hops' op)
  · rw [value', value]
    exact (Publishing.value_foldlM_append ..).symm
  · unfold spoken Session.performAll at *
    rw [Publishing.events_foldlM_append, List.filter_append, List.filter_append, events, events',
      value]

theorem mono {allowed' : Session.Operation → Prop} (h : Leads allowed m said m')
    (imp : ∀ op, allowed op → allowed' op) : Leads allowed' m said m' := by
  obtain ⟨ops, hops, rest⟩ := h
  exact ⟨ops, fun op h => imp op (hops op h), rest⟩

/-- **What the session operations keep, the monitor keeps.** -/
theorem keeps {P : Session → Prop} (h : Leads allowed m said m')
    (step : ∀ op, allowed op → ∀ s, P s → P (s.perform op).value) (hp : P m.session) :
    P m'.session := by
  obtain ⟨ops, hops, value, -⟩ := h
  rw [value]
  exact Publishing.foldlM_preserves_of_mem (fun op ho => step op (hops op ho)) hp

/-- **What the session operations say, the monitor says**, apart from news of
the connection, if something holds of the session that all of them keep. -/
theorem forall_said_of_kept {I : Session → Prop} {P : Event → Prop} (h : Leads allowed m said m')
    (keeps : ∀ op, allowed op → ∀ s, I s → I (s.perform op).value)
    (tells : ∀ op, allowed op → ∀ s, I s → ∀ e ∈ (s.perform op).events, P e)
    (hi : I m.session) : ∀ e ∈ said, e.isConnection = false → P e := by
  obtain ⟨ops, hops, -, events⟩ := h
  intro e he other
  have mem : e ∈ spoken said := List.mem_filter.mpr ⟨he, by rw [other]; rfl⟩
  rw [events] at mem
  exact Publishing.forall_mem_events_foldlM (fun op ho => keeps op (hops op ho))
    (fun op ho => tells op (hops op ho)) hi e (List.mem_filter.mp mem).1

theorem forall_said {P : Event → Prop} (h : Leads allowed m said m')
    (step : ∀ op, allowed op → ∀ s : Session, ∀ e ∈ (s.perform op).events, P e) :
    ∀ e ∈ said, e.isConnection = false → P e :=
  h.forall_said_of_kept (I := fun _ => True) (fun _ _ _ _ => trivial)
    (fun op ho s _ => step op ho s) trivial

end Leads

/-! ## The connection -/

@[simp] theorem value_degrade (m : Monitor) (e : Error) :
    (m.degrade e).value = { m with degraded := true } := by
  unfold degrade
  split
  · next h => rw [← h]; rfl
  · rfl

@[simp] theorem value_restore (m : Monitor) : m.restore.value = { m with degraded := false } := by
  unfold restore
  split
  · rfl
  · next h => rw [← Bool.eq_false_iff.mpr h]; rfl

@[simp] theorem spoken_degrade (m : Monitor) (e : Error) : spoken (m.degrade e).events = [] := by
  unfold degrade
  split <;> rfl

@[simp] theorem spoken_restore (m : Monitor) : spoken m.restore.events = [] := by
  unfold restore
  split <;> rfl

variable {allowed : Session.Operation → Prop}

theorem leads_degrade (m : Monitor) (e : Error) :
    Leads allowed m (m.degrade e).events (m.degrade e).value :=
  .of_eq (by rw [value_degrade]) (spoken_degrade m e)

theorem leads_restore (m : Monitor) : Leads allowed m m.restore.events m.restore.value :=
  .of_eq (by rw [value_restore]) (spoken_restore m)

/-! ## Definitions -/

/-- The definition of a name is shown, and was asked for under that name. -/
def Cached (m : Monitor) (name : String) : Prop :=
  m.requested = some name ∧ m.session.definitionName.isSome

/-- **What comes of making sure that a definition is shown**, and what the runtime is asked
on the way. -/
inductive Ensures (rt : AgentRuntime σ) (m : Monitor) (name : String) (s : σ) :
    Publishing ((Monitor × Except Error Bool) × σ) → Prop
  /-- It is shown already. -/
  | cached (shown : m.Cached name) : Ensures rt m name s (pure ((m, .ok false), s))
  /-- It is fetched and shown. -/
  | fetched {definition : Definition} {t : σ} (absent : ¬m.Cached name)
      (answer : rt.fetchDefinition name s = (.ok definition, t)) :
    Ensures rt m name s
      ⟨(((m.display name definition).value, .ok true), t), (m.display name definition).events⟩
  /-- It cannot be had, and it is the default one. -/
  | lost {e : Error} {t : σ} (absent : ¬m.Cached name)
      (answer : rt.fetchDefinition name s = (.error e, t)) (last : name = m.sync.defaultWorkflow) :
    Ensures rt m name s (pure ((m, .error e), t))
  /-- It cannot be had, and the default one is shown already. -/
  | kept {e : Error} {t : σ} (absent : ¬m.Cached name)
      (answer : rt.fetchDefinition name s = (.error e, t)) (other : name ≠ m.sync.defaultWorkflow)
      (shown : m.session.definitionName = some m.sync.defaultWorkflow) :
    Ensures rt m name s (pure ((m, .ok false), t))
  /-- It cannot be had, and the default one is fetched and shown in its place. -/
  | replaced {e : Error} {definition : Definition} {t u : σ} (absent : ¬m.Cached name)
      (answer : rt.fetchDefinition name s = (.error e, t)) (other : name ≠ m.sync.defaultWorkflow)
      (hidden : m.session.definitionName ≠ some m.sync.defaultWorkflow)
      (fallback : rt.fetchDefinition m.sync.defaultWorkflow t = (.ok definition, u)) :
    Ensures rt m name s
      ⟨(((m.display m.sync.defaultWorkflow definition).value, .ok true), u),
        (m.display m.sync.defaultWorkflow definition).events⟩
  /-- Neither the definition nor the default one can be had. -/
  | neither {e e' : Error} {t u : σ} (absent : ¬m.Cached name)
      (answer : rt.fetchDefinition name s = (.error e, t)) (other : name ≠ m.sync.defaultWorkflow)
      (hidden : m.session.definitionName ≠ some m.sync.defaultWorkflow)
      (fallback : rt.fetchDefinition m.sync.defaultWorkflow t = (.error e', u)) :
    Ensures rt m name s (pure ((m, .error e'), u))

theorem ensures (rt : AgentRuntime σ) (m : Monitor) (name : String) (s : σ) :
    Ensures rt m name s (ensureDefinition rt m name s) := by
  have shows (name : String) (definition : Definition) (t : σ) :
      (do return (← m.display name definition, .ok true) : Asking σ (Monitor × Except Error Bool)) t
        = ⟨(((m.display name definition).value, .ok true), t),
            (m.display name definition).events⟩ :=
    Publishing.ext rfl (List.append_nil _)
  unfold ensureDefinition
  by_cases cached : m.requested = some name ∧ m.session.definitionName.isSome
  · rw [if_pos cached]
    exact .cached cached
  rw [if_neg cached, Asking.ask_bind_apply]
  rcases answer : rt.fetchDefinition name s with ⟨e | definition, t⟩
  · dsimp only
    by_cases last : name = m.sync.defaultWorkflow
    · rw [if_pos last]
      exact .lost cached answer last
    rw [if_neg last]
    by_cases shown : m.session.definitionName = some m.sync.defaultWorkflow
    · rw [if_pos shown]
      exact .kept cached answer last shown
    rw [if_neg shown, Asking.ask_bind_apply]
    rcases fallback : rt.fetchDefinition m.sync.defaultWorkflow t with ⟨e' | definition, u⟩
    · exact .neither cached answer last shown fallback
    · dsimp only
      rw [shows]
      exact .replaced cached answer last shown fallback
  · dsimp only
    rw [shows]
    exact .fetched cached answer

/-- **The session is shown a definition that was fetched**, as this monitor builds
it. -/
def ShowsFetched (rt : AgentRuntime σ) (m : Monitor) (op : Session.Operation) : Prop :=
  ∃ name definition s, (rt.fetchDefinition name s).1 = .ok definition
    ∧ op = .loadDefinition name (m.report definition)

theorem leads_display (m : Monitor) (name : String) (definition : Definition)
    (ok : allowed (.loadDefinition name (m.report definition))) :
    Leads allowed m (m.display name definition).events (m.display name definition).value :=
  .of_perform ok rfl (List.append_nil _)

/-- **Making sure that a definition is shown** loads at most one, and only one that
was fetched. -/
theorem ends_ensureDefinition (rt : AgentRuntime σ) (m : Monitor) (name : String) (s : σ) :
    (ensureDefinition rt m name).Ends s fun r _ said => Leads (ShowsFetched rt m) m said r.1 := by
  have still : Leads (ShowsFetched rt m) m [] m := .of_eq rfl rfl
  have ensured := ensures rt m name s
  unfold Asking.Ends
  generalize ensureDefinition rt m name s = result at ensured ⊢
  cases ensured with
  | cached => exact still
  | fetched absent answer =>
    exact leads_display m _ _ ⟨name, _, s, congrArg Prod.fst answer, rfl⟩
  | lost => exact still
  | kept => exact still
  | replaced absent answer other hidden fallback =>
    exact leads_display m _ _ ⟨_, _, _, congrArg Prod.fst fallback, rfl⟩
  | neither => exact still

/-- What is allowed of all definitions is allowed of those that are fetched. -/
theorem Leads.of_fetched {rt : AgentRuntime σ} {m₀ m m' : Monitor} {said : List Event}
    (h : Leads (ShowsFetched rt m₀) m said m')
    (ok : ∀ name report, allowed (.loadDefinition name report)) : Leads allowed m said m' := by
  refine h.mono ?_
  rintro _ ⟨name, definition, s, -, rfl⟩
  exact ok name _

/-! ## What each operation leads to -/

theorem leads_applySnapshot (m : Monitor) (ticket : FetchTicket) (requestId : String)
    (snapshot : Snapshot) (ok : allowed (.applySnapshot ticket requestId snapshot)) :
    Leads allowed m (m.session.applySnapshot ticket requestId snapshot).events
      { m with session := (m.session.applySnapshot ticket requestId snapshot).value.1 } :=
  .of_perform ok rfl (Publishing.events_map ..).symm

theorem leads_markFailedFrontier (m : Monitor) (snapshot : Snapshot)
    (ok : allowed (.markFailedFrontier snapshot)) :
    Leads allowed m (m.session.markFailedFrontier snapshot).events
      { m with session := (m.session.markFailedFrontier snapshot).value.1 } :=
  .of_perform ok rfl (Publishing.events_map ..).symm

/-- Beginning to watch starts polling and shows the default definition. -/
theorem ends_start (rt : AgentRuntime σ) (m : Monitor) (s : σ) :
    (start rt m).Ends s fun m' _ said =>
      Leads (fun op => op = .startPolling ∨ ShowsFetched rt m op) m said m' := by
  unfold start
  simp only [Asking.ends_bind, Asking.ends_lift]
  refine (ends_ensureDefinition rt _ _ s).mono fun r t said shown => ?_
  have started : Leads (fun op => op = .startPolling ∨ ShowsFetched rt m op) m
      m.session.startPolling.events { m with session := m.session.startPolling.value } :=
    .of_perform (Or.inl rfl) rfl rfl
  have shown := started.trans (shown.mono fun op h => Or.inr h)
  split
  · rw [Asking.ends_pure, List.append_nil]
    exact shown
  · rw [Asking.ends_lift, ← List.append_assoc]
    exact shown.trans (leads_degrade _ _)

/-- **What a poll does to the session**: it clears an instance that is gone, or it
shows a definition and hands the snapshot of the first run in. -/
def Polls (rt : AgentRuntime σ) (m : Monitor) (s : σ) (op : Session.Operation) : Prop :=
  op = .clearInstance ∨ ShowsFetched rt m op
    ∨ ∃ first rest, m.session.isPolling = true ∧ (rt.fetchActive s).1 = .ok (first :: rest)
      ∧ op = .applySnapshot m.session.beginFetch first.requestId first.snapshot

theorem ends_tick (rt : AgentRuntime σ) (m : Monitor) (s : σ) :
    (tick rt m).Ends s fun r _ said => Leads (Polls rt m s) m said r.1 := by
  unfold tick
  split
  · exact .of_eq rfl rfl
  next watched =>
  have watched : m.session.isPolling = true := by simpa using watched
  simp only [Asking.ends_bind, Asking.ends_ask, List.nil_append]
  split
  · simp only [Asking.ends_bind, Asking.ends_lift, Asking.ends_pure, List.append_nil]
    exact leads_degrade m _
  next active reported =>
  simp only [Asking.ends_bind, Asking.ends_lift, value_restore]
  have restored : Leads (Polls rt m s) m m.restore.events { m with degraded := false } :=
    .of_eq rfl (spoken_restore m)
  split
  · simp only [Asking.ends_bind, Asking.ends_lift, Asking.ends_pure, List.append_nil]
    exact restored.trans (.of_perform (Or.inl rfl) rfl rfl)
  next first rest =>
  rw [Asking.ends_bind]
  refine (ends_ensureDefinition rt _ _ _).mono fun r t said shown => ?_
  have shown : Leads (Polls rt m s) { m with degraded := false } said r.1 :=
    shown.mono fun op h => Or.inr (Or.inl h)
  split
  · simp only [Asking.ends_bind, Asking.ends_lift, Asking.ends_pure, List.append_nil]
    exact restored.trans (shown.trans (leads_degrade _ _))
  · simp only [Asking.ends_bind, Asking.ends_lift, Asking.ends_pure, List.append_nil]
    exact restored.trans (shown.trans (leads_applySnapshot _ _ _ _
      (Or.inr (Or.inr ⟨first, rest, watched, reported, rfl⟩))))

theorem Polls.causes {rt : AgentRuntime σ} {m : Monitor} {s : σ} {op : Session.Operation}
    (h : Polls rt m s op) : Operation.tick.Causes op := by
  rcases h with rfl | ⟨name, definition, t, -, rfl⟩ | ⟨first, rest, -, -, rfl⟩
  · exact .tickGone
  · exact .tickDefinition name _
  · exact .tickSnapshot _ _ _

/-- **A poll that is given up** has not touched the session. -/
theorem ends_abandonTick (rt : AgentRuntime σ) (m : Monitor) (s : σ) :
    (abandonTick rt m).Ends s fun m' _ said => Leads Operation.abandonTick.Causes m said m' := by
  unfold abandonTick
  split
  · exact .of_eq rfl rfl
  simp only [Asking.ends_bind, Asking.ends_ask, List.nil_append]
  split
  · rw [Asking.ends_lift]
    exact leads_degrade m _
  · rw [Asking.ends_lift]
    exact leads_restore m

theorem ends_run (rt : AgentRuntime σ) (ticks : Nat) (m : Monitor) (s : σ) :
    (run rt m ticks).Ends s fun m' _ said => Leads (Operation.run ticks).Causes m said m' := by
  -- what a shorter run causes a longer one causes too, so the induction can go on
  have widen (n : Nat) (op : Session.Operation) (h : (Operation.run n).Causes op) (k : Nat) :
      (Operation.run k).Causes op := by
    cases h with
    | runTick _ tick => exact .runTick k tick
    | runStop => exact .runStop k
  induction ticks generalizing m s with
  | zero =>
    unfold run
    rw [Asking.ends_lift]
    exact .of_perform (.runStop 0) rfl (List.append_nil _)
  | succ n ih =>
    unfold run
    rw [Asking.ends_bind]
    refine (ends_tick rt m s).mono fun r t said ticked => ?_
    refine (ih r.1 t).mono fun m' _ more rest => ?_
    exact (ticked.mono fun op h => .runTick (n + 1) h.causes).trans
      (rest.mono fun op h => widen n op h (n + 1))

/-- **What looking at a finished run does to the session** once it has turned to it:
it shows a definition, hands a snapshot in, and marks where the run may have
stopped. -/
def Reviews (rt : AgentRuntime σ) (m : Monitor) (runId : String) (op : Session.Operation) : Prop :=
  ShowsFetched rt m op ∨ (∃ ticket snapshot, op = .applySnapshot ticket runId snapshot)
    ∨ ∃ snapshot, op = .markFailedFrontier snapshot

/-- **Turning to a finished run** comes first, and looking at it does nothing else. -/
theorem ends_loadHistoricalRun (rt : AgentRuntime σ) (m : Monitor) (runId : String) (s : σ) :
    (loadHistoricalRun rt m runId).Ends s fun r _ said =>
      ∃ more, said = (m.session.loadHistorical runId).events ++ more
        ∧ Leads (Reviews rt m runId)
          { m with session := (m.session.loadHistorical runId).value } more r.1 := by
  unfold loadHistoricalRun
  simp only [Asking.ends_bind, Asking.ends_lift, Asking.ends_ask, List.nil_append]
  split
  · exact ⟨[], rfl, .of_eq rfl rfl⟩
  rw [Asking.ends_bind]
  refine (ends_ensureDefinition rt _ _ _).mono fun ⟨m', result⟩ t said shown => ?_
  have ready : Leads (Reviews rt m runId)
      { m with session := (m.session.loadHistorical runId).value } said m' :=
    shown.mono fun op h => Or.inl h
  have taken (ticket : FetchTicket) (snapshot : Snapshot) : Leads (Reviews rt m runId) m'
      (m'.session.applySnapshot ticket runId snapshot).events
      { m' with session := (m'.session.applySnapshot ticket runId snapshot).value.1 } :=
    leads_applySnapshot m' ticket runId snapshot (Or.inr (Or.inl ⟨ticket, snapshot, rfl⟩))
  cases result with
  | error e =>
    rw [Asking.ends_pure, List.append_nil]
    exact ⟨said, rfl, ready⟩
  | ok _ =>
    simp only [Asking.ends_bind, Asking.ends_lift]
    split
    · simp only [Asking.ends_bind, Asking.ends_lift, Asking.ends_pure, List.append_nil]
      exact ⟨_, rfl, ready.trans ((taken _ _).trans
        (leads_markFailedFrontier _ _ (Or.inr (Or.inr ⟨_, rfl⟩))))⟩
    · rw [Asking.ends_pure, List.append_nil]
      exact ⟨_, rfl, ready.trans (taken _ _)⟩

theorem Reviews.causes {rt : AgentRuntime σ} {m : Monitor} {runId : String}
    {op : Session.Operation} (h : Reviews rt m runId op) :
    (Operation.loadHistoricalRun runId).Causes op := by
  rcases h with ⟨name, definition, s, -, rfl⟩ | ⟨ticket, snapshot, rfl⟩ | ⟨snapshot, rfl⟩
  · exact .historicalDefinition runId name _
  · exact .historicalSnapshot runId ticket snapshot
  · exact .historicalFailure runId snapshot

/-! ## Answers -/

/-- **An answer to anything but the gate that waits is refused**, and the
runtime is not asked. -/
theorem submitApproval_of_absent (rt : AgentRuntime σ) {m : Monitor} {requestId : String}
    (approved : Bool) (s : σ)
    (absent : ∀ r, m.session.approvals.outstanding = some r → r.requestId ≠ requestId) :
    submitApproval rt m requestId approved s
      = pure ((m, .error (.noOutstandingApproval requestId)), s) := by
  unfold submitApproval Session.beginApproval
  rw [Approvals.get_of_absent absent]
  rfl

theorem completeApproval_of_waiting {m : Monitor} {r : ApprovalRequest} (approved : Bool)
    (waiting : m.session.approvals.outstanding = some r) :
    m.completeApproval r.requestId approved
      = ⟨({ m with session := m.session.answered r }, .ok ()),
          .approvalResolved r.requestId approved :: m.session.resume.events⟩ := by
  unfold completeApproval
  rw [Session.completeApproval_of_waiting approved waiting]
  exact Publishing.ext rfl (List.append_nil _)

/-- **A denial is recorded**, and the runtime is not asked. -/
theorem submitApproval_denied (rt : AgentRuntime σ) {m : Monitor} {r : ApprovalRequest} (s : σ)
    (waiting : m.session.approvals.outstanding = some r) :
    submitApproval rt m r.requestId false s
      = ⟨(({ m with session := m.session.answered r }, .ok none), s),
          .approvalResolved r.requestId false :: m.session.resume.events⟩ := by
  have hget : m.session.approvals.get r.requestId = .ok r :=
    Approvals.get_eq_ok_iff.mpr ⟨waiting, rfl⟩
  unfold submitApproval Session.beginApproval
  rw [hget]
  simp only [Bool.false_eq_true, if_false, completeApproval_of_waiting false waiting]
  refine Publishing.ext rfl ?_
  show (_ ++ []) ++ [] = _
  rw [List.append_nil, List.append_nil]
  rfl

/-- **An approval that the runtime refuses** changes nothing. -/
theorem submitApproval_refused (rt : AgentRuntime σ) {m : Monitor} {r : ApprovalRequest} {s : σ}
    {e : Error} (waiting : m.session.approvals.outstanding = some r)
    (refused : (rt.approveGate r.requestId s).1 = .error e) :
    submitApproval rt m r.requestId true s
      = pure ((m, .error e), (rt.approveGate r.requestId s).2) := by
  have hget : m.session.approvals.get r.requestId = .ok r :=
    Approvals.get_eq_ok_iff.mpr ⟨waiting, rfl⟩
  unfold submitApproval Session.beginApproval
  rw [hget]
  simp only [if_true, Asking.ask_bind_apply, refused]
  rfl

/-- **An approval that the runtime grants** is recorded. -/
theorem submitApproval_granted (rt : AgentRuntime σ) {m : Monitor} {r : ApprovalRequest} {s : σ}
    {acknowledgement : Acknowledgement} (waiting : m.session.approvals.outstanding = some r)
    (granted : (rt.approveGate r.requestId s).1 = .ok acknowledgement) :
    submitApproval rt m r.requestId true s
      = ⟨(({ m with session := m.session.answered r }, .ok (some acknowledgement)),
            (rt.approveGate r.requestId s).2),
          .approvalResolved r.requestId true :: m.session.resume.events⟩ := by
  have hget : m.session.approvals.get r.requestId = .ok r :=
    Approvals.get_eq_ok_iff.mpr ⟨waiting, rfl⟩
  unfold submitApproval Session.beginApproval
  rw [hget]
  simp only [if_true, Asking.ask_bind_apply, granted, completeApproval_of_waiting true waiting]
  refine Publishing.ext rfl ?_
  show (_ ++ []) ++ [] = _
  rw [List.append_nil, List.append_nil]
  rfl

/-- **What becomes of an answer.** It goes to no gate that waits, or it denies
the one that does, or it approves that one and the runtime refuses or grants
it. -/
theorem submitApproval_cases (rt : AgentRuntime σ) (m : Monitor) (requestId : String)
    (approved : Bool) (s : σ) :
    ((∀ r, m.session.approvals.outstanding = some r → r.requestId ≠ requestId)
        ∧ submitApproval rt m requestId approved s
          = pure ((m, .error (.noOutstandingApproval requestId)), s))
      ∨ ∃ r, m.session.approvals.outstanding = some r ∧ r.requestId = requestId
        ∧ ((approved = false
              ∧ submitApproval rt m r.requestId false s
                = ⟨(({ m with session := m.session.answered r }, .ok none), s),
                    .approvalResolved r.requestId false :: m.session.resume.events⟩)
            ∨ (∃ e, approved = true ∧ (rt.approveGate r.requestId s).1 = .error e
              ∧ submitApproval rt m r.requestId true s
                = pure ((m, .error e), (rt.approveGate r.requestId s).2))
            ∨ ∃ acknowledgement, approved = true
              ∧ (rt.approveGate r.requestId s).1 = .ok acknowledgement
              ∧ submitApproval rt m r.requestId true s
                = ⟨(({ m with session := m.session.answered r }, .ok (some acknowledgement)),
                      (rt.approveGate r.requestId s).2),
                    .approvalResolved r.requestId true :: m.session.resume.events⟩) := by
  rcases m.session.approvals.waits_or_absent requestId with ⟨r, waiting, same⟩ | absent
  · refine Or.inr ⟨r, waiting, same, ?_⟩
    cases approved with
    | false => exact Or.inl ⟨rfl, submitApproval_denied rt s waiting⟩
    | true =>
      cases answer : (rt.approveGate r.requestId s).1 with
      | error e => exact Or.inr (Or.inl ⟨e, rfl, rfl, submitApproval_refused rt waiting answer⟩)
      | ok acknowledgement =>
        exact Or.inr (Or.inr ⟨acknowledgement, rfl, rfl, submitApproval_granted rt waiting answer⟩)
  · exact Or.inl ⟨absent, submitApproval_of_absent rt approved s absent⟩

/-- An answer records at most that answer. -/
theorem ends_submitApproval (rt : AgentRuntime σ) (m : Monitor) (requestId : String)
    (approved : Bool) (s : σ) :
    (submitApproval rt m requestId approved).Ends s fun r _ said =>
      Leads (Operation.submitApproval requestId approved).Causes m said r.1 := by
  have recorded {r : ApprovalRequest} (waiting : m.session.approvals.outstanding = some r)
      (approved : Bool) : Leads (Operation.submitApproval r.requestId approved).Causes m
        (.approvalResolved r.requestId approved :: m.session.resume.events)
        { m with session := m.session.answered r } := by
    refine .of_perform (.answer r.requestId approved) ?_ ?_
    · rw [Session.perform_completeApproval_of_waiting approved waiting]
    · rw [Session.perform_completeApproval_of_waiting approved waiting]
  unfold Asking.Ends
  rcases submitApproval_cases rt m requestId approved s with
    ⟨-, absent⟩ | ⟨r, waiting, rfl, ⟨rfl, denied⟩ | ⟨e, rfl, -, refused⟩ | ⟨a, rfl, -, granted⟩⟩
  · rw [absent]
    exact .of_eq rfl rfl
  · rw [denied]
    exact recorded waiting false
  · rw [refused]
    exact .of_eq rfl rfl
  · rw [granted]
    exact recorded waiting true

/-! ## Operations and runs -/

/-- **A monitor does to its session what its operation causes**, and nothing
else. -/
theorem perform_leads (rt : AgentRuntime σ) (w : Monitor × σ) (op : Operation) :
    Leads op.Causes w.1 (perform rt w op).events (perform rt w op).value.1 := by
  show (obey rt w.1 op).Ends w.2 fun m' _ said => Leads op.Causes w.1 said m'
  cases op with
  | start =>
    refine (ends_start rt w.1 w.2).mono fun m' _ said led => led.mono ?_
    rintro _ (rfl | ⟨name, definition, s, -, rfl⟩)
    · exact .start
    · exact .startDefinition name _
  | stop =>
    unfold obey
    rw [Asking.ends_lift]
    exact .of_perform .stop rfl (List.append_nil _)
  | dispose =>
    unfold obey
    rw [Asking.ends_lift]
    exact .of_perform .dispose rfl (List.append_nil _)
  | tick =>
    unfold obey
    rw [Asking.ends_map]
    exact (ends_tick rt w.1 w.2).mono fun r _ said led => led.mono fun op h => h.causes
  | abandonTick => exact ends_abandonTick rt w.1 w.2
  | run ticks => exact ends_run rt ticks w.1 w.2
  | ensureDefinition name =>
    unfold obey
    rw [Asking.ends_map]
    exact (ends_ensureDefinition rt w.1 name w.2).mono fun r _ said led =>
      led.of_fetched (.definition name)
  | loadHistoricalRun runId =>
    unfold obey
    rw [Asking.ends_map]
    refine (ends_loadHistoricalRun rt w.1 runId w.2).mono fun r _ said => ?_
    rintro ⟨more, rfl, led⟩
    exact Leads.trans (.of_perform (.historical runId) rfl rfl) (led.mono fun op h => h.causes)
  | fetchHistory => exact .of_eq rfl rfl
  | submitApproval requestId approved =>
    unfold obey
    rw [Asking.ends_map]
    exact ends_submitApproval rt w.1 requestId approved w.2
  | save name =>
    unfold obey save
    rw [Asking.ends_map]
    split <;> exact .of_eq rfl rfl

/-- **A monitor does to its session what the operations of a run cause**, and nothing else. -/
theorem performAll_leads (rt : AgentRuntime σ) (w : Monitor × σ) (ops : List Operation) :
    Leads (fun o => ∃ op ∈ ops, op.Causes o) w.1 (performAll rt w ops).events
      (performAll rt w ops).value.1 := by
  unfold performAll
  induction ops generalizing w with
  | nil => exact .of_eq rfl rfl
  | cons op ops ih =>
    rw [List.foldlM_cons, Publishing.events_bind, Publishing.value_bind]
    refine Leads.trans ((perform_leads rt w op).mono ?_) ((ih (perform rt w op).value).mono ?_)
    · exact fun o h => ⟨op, List.mem_cons_self, h⟩
    · exact fun o ⟨op', hop', h⟩ => ⟨op', List.mem_cons_of_mem op hop', h⟩

/-- Only what is told to forget makes a session forget. -/
theorem Operation.Causes.eq_dispose {op : Operation} (h : op.Causes .dispose) : op = .dispose := by
  cases h with
  | dispose => rfl
  | runTick _ tick => cases tick

theorem Operation.Causes.eq_submitApproval {op : Operation} {requestId : String} {approved : Bool}
    (h : op.Causes (.completeApproval requestId approved)) :
    op = .submitApproval requestId approved := by
  cases h with
  | runTick _ tick => cases tick
  | answer => rfl

end Monitor

end AgentWorkflow
