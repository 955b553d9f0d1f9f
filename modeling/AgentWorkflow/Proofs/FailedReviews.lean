import AgentWorkflow.Proofs.GateRelease
import AgentWorkflow.Proofs.TimelySnapshots

/-!
# Finished runs that cannot be shown

Two questions are asked before a finished run can be shown: what is known of the run, and
which definition it executed. Either of them can fail. Answering a gate and polling both wait
for the last answer before they touch the session, so that a failure leaves it as it was.
Looking at a finished run does not. The session has turned to the run by the time the first
question is asked, and nothing turns it back.

What a failure leaves behind is therefore what turning to a run does, neither more nor less
(`Monitor.of_loadHistoricalRun_eq_error`). Watching has stopped, the gate that waited has been
dropped and was said to have been cleared, although its run may still wait at it, and the
session looks at a run of which it shows nothing: the graph, with its marks, is the one that
was shown before.

Only a session that had nothing to lose is left undisturbed, one that had already turned to
that run and knew nothing of it (`Monitor.failed_reviews_leave_alone_iff`). That is what the
first failure leaves behind, so the second one in a row does no further harm.
-/

namespace AgentWorkflow

namespace Session

variable {s s' : Session} {runId : String}

/-- **Nothing was disturbed** that the operator sees of a session: where it stands, what it
looks at, which run it watches, the gate that waits, and the graph. -/
structure LeavesAlone (s s' : Session) : Prop where
  /-- It stands where it stood. -/
  state : s'.state = s.state
  /-- It looks at what it looked at. -/
  mode : s'.mode = s.mode
  /-- It watches the same run. -/
  requestId : s'.requestId = s.requestId
  /-- The same gate waits, or none does. -/
  outstanding : s'.approvals.outstanding = s.approvals.outstanding
  /-- The same graph is shown, with the same marks. -/
  graph : s'.graph = s.graph

/-- **Turning to a finished run** tells of a gate that waited, and that watching has stopped. -/
theorem events_loadHistorical (s : Session) (runId : String) :
    (s.loadHistorical runId).events
      = (s.approvals.outstanding.map fun r => Event.approvalCleared r.requestId).toList
        ++ if s.state = .stopped then [] else [.stateChanged s.state .stopped] := by
  unfold loadHistorical
  rw [Publishing.events_bind, Approvals.events_clear, events_transition]

/-- **Turning to a finished run disturbs nothing** exactly if the session looks at it already
and watches no run. -/
theorem loadHistorical_leavesAlone_iff :
    s.LeavesAlone (s.loadHistorical runId).value ∧ (s.loadHistorical runId).events = []
      ↔ s.LooksAt runId ∧ s.requestId = none := by
  rw [value_loadHistorical, events_loadHistorical]
  constructor
  · rintro ⟨⟨state, mode, requestId, outstanding, -⟩, -⟩
    exact ⟨⟨mode.symm, state.symm, outstanding.symm⟩, requestId.symm⟩
  · rintro ⟨⟨mode, state, outstanding⟩, requestId⟩
    refine ⟨⟨state.symm, mode.symm, requestId.symm, outstanding.symm, rfl⟩, ?_⟩
    rw [outstanding, if_pos state]
    rfl

end Session

namespace Monitor

variable {σ : Type} {rt : AgentRuntime σ} {m : Monitor} {runId : String} {s : σ} {e : Error}

/-- **If a finished run cannot be shown**, the session has turned to it all the same, and
nothing else has happened. -/
theorem of_loadHistoricalRun_eq_error
    (failed : (loadHistoricalRun rt m runId s).value.1.2 = .error e) :
    (loadHistoricalRun rt m runId s).value.1.1
        = { m with session := (m.session.loadHistorical runId).value }
      ∧ (loadHistoricalRun rt m runId s).events = (m.session.loadHistorical runId).events := by
  suffices (loadHistoricalRun rt m runId).Ends s fun r _ said => r.2 = .error e →
      r.1 = { m with session := (m.session.loadHistorical runId).value }
        ∧ said = (m.session.loadHistorical runId).events from this failed
  unfold loadHistoricalRun
  simp only [Asking.ends_bind, Asking.ends_lift, Asking.ends_ask]
  rcases rt.fetchRun runId s with ⟨lost | run, t⟩
  · exact fun _ => ⟨rfl, List.append_nil _⟩
  dsimp only
  rw [Asking.ends_bind]
  refine (ensureDefinition_of_error rt _ run.workflowName t).mono
    fun ⟨m', result⟩ u said hidden => ?_
  cases result with
  | error e' =>
    obtain ⟨rfl, rfl⟩ := hidden e' rfl
    exact fun _ => ⟨rfl, List.append_nil _⟩
  | ok changed =>
    -- whatever is handed in, it is answered with the run
    simp only [Asking.ends_bind, Asking.ends_lift]
    split
    · simp only [Asking.ends_bind, Asking.ends_lift, Asking.ends_pure]
      exact nofun
    · exact nofun

/-- **A finished run that cannot be shown** disturbs the view, but for one that looked at this
run already and knew nothing of it. Take any monitor and any runtime, and a run that cannot
be had or whose definition cannot. The session has turned to the run: it has stopped watching,
no gate waits any more, and it knows of no run. It shows the graph that it has shown, and
remembers the gates that were answered. It has said that a gate was cleared, if one waited,
and that watching has stopped, if it had not. So the view is left alone exactly if it stood
there before; a live view never is, nor one of another finished run. -/
theorem failed_reviews_leave_alone_iff (rt : AgentRuntime σ) (m : Monitor) (runId : String)
    (s : σ) {e : Error} (failed : (loadHistoricalRun rt m runId s).value.1.2 = .error e) :
    let after := (loadHistoricalRun rt m runId s).value.1.1
    let said := (loadHistoricalRun rt m runId s).events
    (m.session.LeavesAlone after.session ∧ said = []
        ↔ m.session.LooksAt runId ∧ m.session.requestId = none)
      ∧ after = { m with session := after.session }
      ∧ after.session.TurnedTo runId ∧ after.session.requestId = none
      ∧ after.session.graph = m.session.graph
      ∧ after.session.definitionName = m.session.definitionName
      ∧ after.session.diagnostics = m.session.diagnostics
      ∧ after.session.approvals.resolved = m.session.approvals.resolved
      ∧ said = (m.session.approvals.outstanding.map fun r =>
          Event.approvalCleared r.requestId).toList
        ++ if m.session.state = .stopped then [] else [.stateChanged m.session.state .stopped] := by
  intro after said
  obtain ⟨value, events⟩ : after = { m with session := (m.session.loadHistorical runId).value }
      ∧ said = (m.session.loadHistorical runId).events := of_loadHistoricalRun_eq_error failed
  have session : after.session = (m.session.loadHistorical runId).value := by rw [value]
  have turned := m.session.value_loadHistorical runId
  rw [session, events]
  exact ⟨Session.loadHistorical_leavesAlone_iff, value, m.session.turnedTo_loadHistorical runId,
    by rw [turned], by rw [turned], by rw [turned], by rw [turned], by rw [turned]; rfl,
    m.session.events_loadHistorical runId⟩

/-- The second failure in a row changes nothing. -/
theorem failed_reviews_leave_alone_iff_repeated :
    let rt := InMemory.runtime
    let first := (loadHistoricalRun rt atGate "old" InMemory.atGate).value
    let second := loadHistoricalRun rt first.1.1 "old" first.2
    second.value.1.2 = .error (.transport "HTTP 404: run old not found")
      ∧ first.1.1.session.LeavesAlone second.value.1.1.session ∧ second.events = [] := by
  intro rt first second
  have failed : second.value.1.2 = .error (.transport "HTTP 404: run old not found") := rfl
  have turned : first.1.1.session.LooksAt "old" := ⟨rfl, rfl, rfl⟩
  obtain ⟨leaves, -⟩ := failed_reviews_leave_alone_iff rt first.1.1 "old" first.2 failed
  exact ⟨failed, leaves.mpr ⟨turned, rfl⟩⟩

/-- **A gate is said to have been cleared at which its run still waits**, because another run
is not known. The monitor has started and polled once, and the runtime always tells the
same. -/
theorem waiting_gate_is_cleared_by_failed_review :
    let rt := InMemory.runtime.frozen .atGate
    let w := (performAll rt (ofConfig {}, ()) [.start]).value
    let watching := (tick rt w.1 w.2).value.1.1
    let load := loadHistoricalRun rt watching "old" ()
    let after := load.value.1.1
    load.value.1.2 = .error (.transport "HTTP 404: run old not found")
      ∧ (watching.session.state = .gateActive ∧ after.session.state = .stopped)
      ∧ (watching.session.mode = .live ∧ after.session.mode = .historical "old")
      ∧ (watching.session.requestId = some "run" ∧ after.session.requestId = none)
      ∧ (watching.session.approvals.outstanding.map ApprovalRequest.gate = some ("run", "gate")
        ∧ after.session.approvals.outstanding = none)
      ∧ load.events = [.approvalCleared "run", .stateChanged .gateActive .stopped] := by
  intro rt w watching load after
  have polled := tick_of_fetched rt (m := w.1) (s := w.2) rfl rfl rfl (by decide +kernel) rfl
  rw [report_singleGate rfl rfl] at polled
  obtain ⟨state, mode, requestId, gate⟩ : watching.session.state = .gateActive
      ∧ watching.session.mode = .live ∧ watching.session.requestId = some "run"
      ∧ watching.session.approvals.outstanding.map ApprovalRequest.gate
        = some ("run", "gate") := by
    dsimp only [watching]
    rw [polled]
    decide +kernel
  have failed : load.value.1.2 = .error (.transport "HTTP 404: run old not found") := rfl
  obtain ⟨value, events⟩ : after
        = { watching with session := (watching.session.loadHistorical "old").value }
      ∧ load.events = (watching.session.loadHistorical "old").events :=
    of_loadHistoricalRun_eq_error failed
  have turned := watching.session.value_loadHistorical "old"
  obtain ⟨r, waiting, run⟩ := Option.map_eq_some_iff.mp gate
  have run : r.requestId = "run" := congrArg Prod.fst run
  refine ⟨failed, ⟨state, ?_⟩, ⟨mode, ?_⟩, ⟨requestId, ?_⟩, ⟨gate, ?_⟩, ?_⟩
  · rw [value, turned]
  · rw [value, turned]
  · rw [value, turned]
  · rw [value, turned]
    rfl
  · rw [events, Session.events_loadHistorical, waiting, state, if_neg (by decide), Option.map_some,
      run]
    rfl

end Monitor

end AgentWorkflow
