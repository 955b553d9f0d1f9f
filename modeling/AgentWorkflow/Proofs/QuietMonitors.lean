import AgentWorkflow.Proofs.GateRelease
import AgentWorkflow.Proofs.Resuming
import AgentWorkflow.Proofs.StaleSnapshots

/-!
# A monitor that has stopped is quiet

A monitor stops watching when it is told to, when it is told to forget
everything, when the polls it was to make are made, and when it turns to a
finished run. From then on, until it is told to start, it should not poll, and
it should not ask the operator anything, whatever else it is told.

**Why this is not up to the session.** A session that has stopped still takes
over a snapshot of a live run, and goes on to poll or to stand at a gate
(`Session.stopped_session_resumed_by_snapshot`). What keeps a monitor quiet is
where its snapshots come from. A poll hands one in only while a live run is
watched. A look at a finished run hands one in only after the session has turned
to that run, and in a finished run no gate is looked for. An answer may still
come, since a gate goes on waiting after the stop, but it leads on only from a
gate at which the session stands.

So the proof is in three layers: `Session.perform_quiet` for one operation of a
session, `Monitor.Leads.quiet` for what one operation of a monitor does to one,
and `Monitor.stopped_monitors_are_quiet` for every run that does not start
again.
-/

namespace AgentWorkflow

/-- What stops a view leaves it stopped, and asks about nothing. -/
theorem GateView.Turn.stops {v v' : GateView} {op : Session.Operation} {said : List Event}
    (t : Turn v op said v') (turns : op.beginsEpoch = true) (start : op ≠ .startPolling) :
    (v'.state = .idle ∨ v'.state = .stopped) ∧ ∀ r, .approvalRequested r ∉ said := by
  cases t with
  | startPolling => exact absurd rfl start
  | stopPolling => exact ⟨Or.inr rfl, fun _ => List.not_mem_nil⟩
  | dispose => exact ⟨Or.inl rfl, fun _ => List.not_mem_nil⟩
  | loadHistorical => exact ⟨Or.inr rfl, v.approvals.requested_notMem_clear⟩
  | _ => cases turns

namespace Session

/-- **A session is quiet** that watches nothing and has asked about no gate. -/
structure Quiet (s : Session) (said : List Event) : Prop where
  /-- No live run is watched. -/
  rests : s.isPolling = false
  /-- The operator is asked nothing. -/
  silent : ∀ r, .approvalRequested r ∉ said

variable {s : Session} {op : Operation} {said more : List Event}

theorem Quiet.after (h : s.Quiet more) (silent : ∀ r, .approvalRequested r ∉ said) :
    s.Quiet (said ++ more) :=
  ⟨h.rests, fun r asked => (List.mem_append.mp asked).elim (silent r) (h.silent r)⟩

theorem quiet_of_gateView {p : Publishing Session}
    (h : (p.value.state = .idle ∨ p.value.state = .stopped)
      ∧ ∀ r, .approvalRequested r ∉ p.approvals) : p.value.Quiet p.events :=
  ⟨isPolling_eq_false_iff.mpr h.1, fun r asked => h.2 r (Publishing.mem_approvals.mpr ⟨asked, rfl⟩)⟩

/-- **Who does not watch stays quiet**, unless watching begins or a snapshot of a live run
is handed in. -/
theorem perform_quiet (rests : s.isPolling = false) (start : op ≠ .startPolling)
    (review : ∀ ticket requestId snapshot, op = .applySnapshot ticket requestId snapshot →
      s.mode ≠ .live) : (s.perform op).value.Quiet (s.perform op).events :=
  quiet_of_gateView
    ((s.perform_turn op).rests_unless_live (isPolling_eq_false_iff.mp rests) start review)

/-- **Who looks elsewhere is quiet**, unless it is to watch. -/
theorem perform_quiet_of_turns (s : Session) (op : Operation) (turns : op.beginsEpoch = true)
    (start : op ≠ .startPolling) : (s.perform op).value.Quiet (s.perform op).events :=
  quiet_of_gateView ((s.perform_turn op).stops turns start)

end Session

namespace Monitor

variable {σ : Type} {rt : AgentRuntime σ} {m m' : Monitor} {said : List Event}

/-! ## What a session is led to -/

section Leads

variable {allowed : Session.Operation → Prop}

/-- **Nobody sets a session going** who does not begin to watch, and who hands snapshots in
only while something holds that rules live runs out. -/
theorem Leads.quiet (Reviewing : Session → Prop) (h : Leads allowed m said m')
    (start : ¬allowed .startPolling)
    (stays : ∀ op, allowed op → ∀ s, Reviewing s → Reviewing (s.perform op).value)
    (review : ∀ ticket requestId snapshot, allowed (.applySnapshot ticket requestId snapshot) →
      ∀ s, Reviewing s → s.mode ≠ .live)
    (reviewing : Reviewing m.session) (rests : m.session.isPolling = false) :
    m'.session.Quiet said := by
  let Rests (s : Session) : Prop := Reviewing s ∧ s.isPolling = false
  have step (op : Session.Operation) (ok : allowed op) (s : Session) (hs : Rests s) :
      (s.perform op).value.Quiet (s.perform op).events := by
    refine Session.perform_quiet hs.2 (fun same => start (same ▸ ok)) ?_
    rintro ticket requestId snapshot rfl
    exact review ticket requestId snapshot ok s hs.1
  have kept (op : Session.Operation) (ok : allowed op) (s : Session) (hs : Rests s) :
      Rests (s.perform op).value :=
    ⟨stays op ok s hs.1, (step op ok s hs).rests⟩
  refine ⟨(h.keeps kept ⟨reviewing, rests⟩).2, fun r asked => ?_⟩
  have other := h.forall_said_of_kept (P := fun e => e ≠ .approvalRequested r) kept
    (fun op ok s hs e he same => (step op ok s hs).silent r (same ▸ he)) ⟨reviewing, rests⟩
  exact other _ asked rfl rfl

/-- Who hands no snapshots in needs nothing of the kind. -/
theorem Leads.quiet_of_no_snapshot (h : Leads allowed m said m') (start : ¬allowed .startPolling)
    (none : ∀ ticket requestId snapshot, ¬allowed (.applySnapshot ticket requestId snapshot))
    (rests : m.session.isPolling = false) : m'.session.Quiet said :=
  h.quiet (fun _ => True) start (fun _ _ _ _ => trivial)
    (fun ticket requestId snapshot ok => absurd ok (none ticket requestId snapshot)) trivial rests

end Leads

/-- **Looking at a finished run** keeps the session at it, so it may hand its snapshot in. -/
theorem Leads.quiet_of_reviews {m₀ : Monitor} {runId : String}
    (h : Leads (Reviews rt m₀ runId) m said m') (mode : m.session.mode ≠ .live)
    (rests : m.session.isPolling = false) : m'.session.Quiet said := by
  have stays (op : Session.Operation) (ok : Reviews rt m₀ runId op) : op.beginsEpoch = false := by
    rcases ok with ⟨_, _, _, -, rfl⟩ | ⟨_, _, rfl⟩ | ⟨_, rfl⟩ <;> rfl
  refine h.quiet (fun s => s.mode ≠ .live) ?_ ?_ ?_ mode rests
  · exact fun ok => nomatch stays _ ok
  · intro op ok s finished
    have same : (s.perform op).value.mode = s.mode :=
      congrArg FetchTicket.mode (Session.beginFetch_perform (stays op ok))
    rwa [same]
  · exact fun _ _ _ _ _ finished => finished

/-! ## What each operation leaves -/

/-- **Turning to a finished run leaves a monitor quiet**, whether it was watching or not, and
whether the run can be shown or not. -/
theorem ends_loadHistoricalRun_quiet (rt : AgentRuntime σ) (m : Monitor) (runId : String) (s : σ) :
    (loadHistoricalRun rt m runId).Ends s fun r _ said => r.1.session.Quiet said := by
  refine (ends_loadHistoricalRun rt m runId s).mono fun r _ said => ?_
  rintro ⟨more, rfl, led⟩
  have turned : (m.session.loadHistorical runId).value.Quiet
      (m.session.loadHistorical runId).events :=
    m.session.perform_quiet_of_turns (.loadHistorical runId) rfl nofun
  have mode : (m.session.loadHistorical runId).value.mode ≠ .live := by
    rw [Session.value_loadHistorical]
    nofun
  exact (led.quiet_of_reviews mode turned.rests).after turned.silent

/-- **A poll of a monitor that does not watch is none.** The runtime is not asked, nothing
is said, and nothing changes. -/
theorem tick_of_resting (rt : AgentRuntime σ) (rests : m.session.isPolling = false) :
    tick rt m = pure (m, .inactive) := by
  unfold tick
  rw [rests]
  rfl

theorem run_of_resting (rt : AgentRuntime σ) (rests : m.session.isPolling = false) (ticks : Nat) :
    run rt m ticks = liftM m.stop := by
  induction ticks with
  | zero => rfl
  | succ ticks ih =>
    unfold run
    rw [tick_of_resting rt rests, pure_bind]
    exact ih

theorem ends_run_resting (rt : AgentRuntime σ) (m : Monitor) (ticks : Nat) (s : σ) :
    (run rt m ticks).Ends s fun m' _ _ => m'.session.isPolling = false := by
  induction ticks generalizing m s with
  | zero =>
    unfold run
    rw [Asking.ends_lift]
    refine (m.session.perform_quiet_of_turns .stopPolling rfl ?_).rests
    rintro ⟨⟩
  | succ ticks ih =>
    unfold run
    rw [Asking.ends_bind]
    exact ih (tick rt m s).value.1.1 (tick rt m s).value.2

/-- **What makes a monitor stop.** -/
def Operation.stops : Operation → Bool
  | .stop | .dispose | .run _ | .loadHistoricalRun _ => true
  | _ => false

theorem perform_rests_of_stops (rt : AgentRuntime σ) (w : Monitor × σ) {op : Operation}
    (stops : op.stops = true) : (perform rt w op).value.1.session.isPolling = false := by
  cases op with
  | stop => exact (w.1.session.perform_quiet_of_turns .stopPolling rfl nofun).rests
  | dispose => exact (w.1.session.perform_quiet_of_turns .dispose rfl nofun).rests
  | run ticks => exact ends_run_resting rt w.1 ticks w.2
  | loadHistoricalRun runId => exact (ends_loadHistoricalRun_quiet rt w.1 runId w.2).rests
  | _ => cases stops

/-- Only starting begins to watch. -/
theorem Operation.Causes.eq_start {op : Operation} (h : op.Causes .startPolling) : op = .start := by
  cases h with
  | start => rfl
  | runTick _ tick => cases tick

/-- **One operation of a monitor that does not watch** leaves it quiet, unless it starts. -/
theorem perform_quiet (rt : AgentRuntime σ) (w : Monitor × σ) {op : Operation}
    (rests : w.1.session.isPolling = false) (start : op ≠ .start) :
    (perform rt w op).value.1.session.Quiet (perform rt w op).events := by
  have led := perform_leads rt w op
  have never : ¬op.Causes .startPolling := fun h => start h.eq_start
  cases op with
  | tick =>
    show (Prod.fst <$> tick rt w.1).Ends w.2 fun m _ said => m.session.Quiet said
    rw [Asking.ends_map, tick_of_resting rt rests, Asking.ends_pure]
    exact ⟨rests, fun _ => List.not_mem_nil⟩
  | run ticks =>
    -- what a run may cause includes snapshots of live runs, so it is looked at itself
    have only_stops : perform rt w (.run ticks) = perform rt w .stop :=
      congrFun (run_of_resting rt rests ticks) w.2
    rw [only_stops]
    exact (perform_leads rt w .stop).quiet_of_no_snapshot nofun nofun rests
  | loadHistoricalRun runId =>
    show (Prod.fst <$> loadHistoricalRun rt w.1 runId).Ends w.2 fun m _ said => m.session.Quiet said
    rw [Asking.ends_map]
    exact ends_loadHistoricalRun_quiet rt w.1 runId w.2
  | _ => exact led.quiet_of_no_snapshot never nofun rests

/-! ## Runs -/

/-- **A run of a monitor that does not watch** leaves it quiet, unless it starts. -/
theorem performAll_quiet (rt : AgentRuntime σ) {w : Monitor × σ} {ops : List Operation}
    (rests : w.1.session.isPolling = false) (start : .start ∉ ops) :
    (performAll rt w ops).value.1.session.Quiet (performAll rt w ops).events := by
  unfold performAll
  induction ops generalizing w with
  | nil => exact ⟨rests, fun _ => List.not_mem_nil⟩
  | cons op ops ih =>
    have first := perform_quiet rt w rests fun same => start (same ▸ List.mem_cons_self)
    rw [List.foldlM_cons, Publishing.events_bind, Publishing.value_bind]
    exact (ih first.rests fun later => start (List.mem_cons_of_mem op later)).after first.silent

/-- **A monitor that has stopped is quiet until it is started again.** Whatever stopped it
and whatever it was told since, its session shows nothing or stands still, a poll asks the
runtime nothing, publishes nothing and changes nothing, and the operator is asked about no
gate. -/
theorem stopped_monitors_are_quiet (rt : AgentRuntime σ) (w : Monitor × σ) (op : Operation)
    (stops : op.stops = true) {since : List Operation} (start : .start ∉ since) :
    let quiet := performAll rt (perform rt w op).value since
    (quiet.value.1.session.state = .stopped ∨ quiet.value.1.session.state = .idle)
      ∧ tick rt quiet.value.1 = pure (quiet.value.1, .inactive)
      ∧ ∀ r, .approvalRequested r ∉ quiet.events := by
  intro quiet
  have all : quiet.value.1.session.Quiet quiet.events :=
    performAll_quiet rt (perform_rests_of_stops rt w stops) start
  exact ⟨(Session.isPolling_eq_false_iff.mp all.rests).symm, tick_of_resting rt all.rests,
    all.silent⟩

/-- A monitor that stops at a gate still takes the answer to it. -/
theorem stopped_monitors_are_quiet_at_gate :
    let stopped := (perform InMemory.runtime (atGate, {}) .stop).value
    let since : List Operation := [.submitApproval "run" true, .tick, .loadHistoricalRun "run",
      .run 2]
    let quiet := performAll InMemory.runtime stopped since
    atGate.session.state = .gateActive ∧ Operation.stop.stops = true ∧ .start ∉ since
      ∧ .approvalResolved "run" true ∈ quiet.events
      ∧ tick InMemory.runtime quiet.value.1 = pure (quiet.value.1, .inactive) := by
  intro stopped since quiet
  have start : .start ∉ since := by simp [since]
  have still := stopped_monitors_are_quiet InMemory.runtime (atGate, {}) .stop rfl start
  exact ⟨rfl, rfl, start, List.mem_cons_self, still.2.1⟩

end Monitor

end AgentWorkflow
