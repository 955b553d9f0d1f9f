import AgentWorkflow.Proofs.HistoricalViews
import AgentWorkflow.Proofs.Outages
import AgentWorkflow.Proofs.Resuming
import AgentWorkflow.Proofs.Signatures

/-!
# A snapshot comes in time, or not at all

A session discards a snapshot whose ticket is out of date. It has to, since whoever polls
may take long and the session may have turned elsewhere in between. No monitor ever makes
use of this. Between the ticket and the snapshot it may ask the runtime for one definition
and for another one in its place, and show what it gets. That begins no epoch and does not
put the session to rest, so the ticket still holds (`Monitor.Leads.takesOver`).

The other end of a poll is a failure. Three questions can fail, and two of them come after
another one was answered. Nothing is done to the session before the last of them has been
answered, so a poll that fails leaves it as it was, however many fail in a row
(`Monitor.session_of_failed_rounds`).

So no poll is half done (`Monitor.no_poll_is_half_done`), whatever the monitor has been
through and whatever it is answered. A finished run is looked at in two steps, so that it
can be said what is handed in: everything up to there (`Monitor.bringRun`), and handing it
in (`Monitor.handIn`).
-/

namespace AgentWorkflow

/-- A session that has turned to a finished run takes its snapshot over, and marks nodes
anew. -/
theorem Session.TurnedTo.applied {s : Session} {runId : String} (h : s.TurnedTo runId)
    (snapshot : Snapshot) :
    (s.applySnapshot s.beginFetch runId snapshot).value.2 = .applied true .unchanged := by
  have inTime : s.TakesOver s.beginFetch := ⟨rfl, by rw [h.state]; nofun⟩
  cases outcome : (s.applySnapshot s.beginFetch runId snapshot).value.2 with
  | discarded =>
    exact absurd (applySnapshot_eq_discarded_iff.mp outcome) (not_stale_iff.mpr inTime)
  | applied changed gate =>
    obtain rfl : gate = .unchanged := by
      rw [applySnapshot_of_historical (not_stale_iff.mpr inTime) h.mode] at outcome
      cases outcome
      rfl
    cases changed with
    | true => rfl
    | false =>
      obtain ⟨-, -, known⟩ := applySnapshot_leaves_iff.mp ⟨_, outcome⟩
      exact nomatch h.signature.symm.trans known

namespace Monitor

variable {σ : Type} {rt : AgentRuntime σ} {m : Monitor} {s : σ}

/-! ## Polls that fail -/

/-- **However many polls fail in a row**, the session is what it was before. -/
theorem session_of_failed_rounds {ticks : Nat} {w : Monitor × σ}
    (failed : ∀ r ∈ rounds rt ticks w, r.outcome = .degraded) :
    (performAll rt w (List.replicate ticks .tick)).value.1.session = w.1.session := by
  induction ticks generalizing w with
  | zero => rfl
  | succ ticks ih =>
    obtain ⟨now, next⟩ := List.forall_mem_cons.mp failed
    have first : (perform rt w .tick).value.1.session = w.1.session := by
      show ((Prod.fst <$> tick rt w.1) w.2).value.1.session = w.1.session
      rw [Asking.map_apply, (tick_of_degraded now).1]
    exact (ih next).trans first

theorem spoken_failing (announced answered : Bool) (detail : String) :
    spoken (failing announced answered detail) = [] := by
  unfold failing
  split <;> rfl

/-! ## Live runs -/

/-- **Showing definitions keeps a ticket good.** -/
theorem Leads.takesOver {m' : Monitor} {said : List Event} {ticket : FetchTicket}
    (h : Leads ShowsDefinition m said m') (inTime : m.session.TakesOver ticket) :
    m'.session.TakesOver ticket := by
  refine h.keeps (P := fun s => s.TakesOver ticket) ?_ inTime
  rintro _ ⟨name, report, rfl⟩ s hs
  exact hs

/-- A poll hands a snapshot in only after the runtime has reported a run. -/
theorem reported_of_applied {outcome : ApplyOutcome}
    (applied : (tick rt m s).value.1.2 = .applied outcome) :
    ∃ first rest, (rt.fetchActive s).1 = .ok (first :: rest) := by
  suffices (tick rt m).Ends s fun r _ _ => r.2 = .applied outcome →
      ∃ first rest, (rt.fetchActive s).1 = .ok (first :: rest) from this applied
  unfold tick
  split
  · exact nofun
  simp only [Asking.ends_bind, Asking.ends_ask]
  cases (rt.fetchActive s).1 with
  | error e =>
    simp only [Asking.ends_bind, Asking.ends_lift, Asking.ends_pure]
    exact nofun
  | ok active =>
    cases active with
    | nil =>
      simp only [Asking.ends_bind, Asking.ends_lift, Asking.ends_pure]
      exact nofun
    | cons first rest => exact fun _ => ⟨first, rest, rfl⟩

/-- **No poll hands a snapshot in too late.** -/
theorem tick_ne_discarded (rt : AgentRuntime σ) (m : Monitor) (s : σ) :
    (tick rt m s).value.1.2 ≠ .applied .discarded := by
  intro late
  obtain ⟨first, rest, reported⟩ := reported_of_applied late
  obtain ⟨watched, said, shown, fetched, -, discarded⟩ := tick_of_taken reported late
  have awake : m.session.state ≠ .idle := by
    intro idle
    rw [Session.isPolling_eq_false_iff.mpr (Or.inl idle)] at watched
    cases watched
  have definitions : Leads ShowsDefinition m said shown :=
    fetched.of_fetched fun name report => ⟨name, report, rfl⟩
  exact Session.not_stale_iff.mpr (definitions.takesOver ⟨rfl, awake⟩)
    (Session.applySnapshot_eq_discarded_iff.mp discarded)

/-! ## Finished runs -/

/-- **A finished run that is to be handed in**, and the ticket for it. -/
structure Handover where
  /-- The monitor whose session takes it over. -/
  monitor : Monitor
  /-- The ticket from the time when the session turned to the run. -/
  ticket : FetchTicket
  /-- The run. -/
  run : HistoricalRun

/-- **All that is done before a finished run is handed in.** -/
def bringRun (rt : AgentRuntime σ) (m : Monitor) (runId : String) :
    Asking σ (Except (Monitor × Error) Handover) := do
  let session ← m.session.loadHistorical runId
  let ticket := session.beginFetch
  let m := { m with session }
  match ← Asking.ask (rt.fetchRun runId) with
  | .error e => return .error (m, e)
  | .ok run =>
    match ← ensureDefinition rt m run.workflowName with
    | (m, .error e) => return .error (m, e)
    | (m, .ok _) => return .ok ⟨m, ticket, run⟩

/-- **Handing a finished run in**, if it was brought. -/
def handIn (runId : String) : Except (Monitor × Error) Handover →
    Asking σ (Monitor × Except Error HistoricalRun)
  | .error (m, e) => return (m, .error e)
  | .ok ⟨m, ticket, run⟩ => do
    let (session, outcome) ← m.session.applySnapshot ticket runId run.finalState
    if outcome ≠ .discarded ∧ run.isFailed then
      let (session, _) ← session.markFailedFrontier run.finalState
      return ({ m with session }, .ok run)
    return ({ m with session }, .ok run)

/-- **Looking at a finished run** is to bring it and to hand it in. -/
theorem loadHistoricalRun_eq (rt : AgentRuntime σ) (m : Monitor) (runId : String) :
    loadHistoricalRun rt m runId
      = bringRun rt m runId >>= handIn runId := by
  unfold loadHistoricalRun bringRun
  simp only [bind_assoc]
  refine bind_congr fun session => bind_congr fun answer => ?_
  cases answer with
  | error e => exact (pure_bind _ _).symm
  | ok run =>
    refine Eq.trans (bind_congr fun ensured => ?_) (bind_assoc _ _ _).symm
    obtain ⟨m, result⟩ := ensured
    cases result with
    | error e => exact (pure_bind _ _).symm
    | ok changed => exact (pure_bind _ _).symm

/-- A run that is brought finds the session turned to it since the ticket was taken. -/
theorem ends_bringRun (rt : AgentRuntime σ) (m : Monitor) (runId : String) (s : σ) :
    (bringRun rt m runId).Ends s fun r _ _ => ∀ brought, r = .ok brought →
      brought.monitor.session.TurnedTo runId
        ∧ brought.monitor.session.beginFetch = brought.ticket := by
  let turned : Monitor := { m with session := (m.session.loadHistorical runId).value }
  unfold bringRun
  simp only [Asking.ends_bind, Asking.ends_lift, Asking.ends_ask]
  rcases rt.fetchRun runId s with ⟨e | run, t⟩
  · exact fun _ failed => nomatch failed
  dsimp only
  rw [Asking.ends_bind]
  refine (ends_ensureDefinition rt turned run.workflowName t).mono
    fun ⟨m', result⟩ _ _ shown => ?_
  cases result with
  | error e => exact fun _ failed => nomatch failed
  | ok changed =>
    rintro _ ⟨⟩
    exact shown.turnedTo (m.session.turnedTo_loadHistorical runId)

/-- **No poll is half done.** Take any monitor and any runtime. A poll that fails leaves the
session exactly as it was, and says nothing but that the connection was lost or is back. No
poll hands a snapshot in too late. Looking at a finished run is to bring it and to hand it
in; and whenever it can be brought, its snapshot is taken over and marks nodes anew, so it
does not come too late either. -/
theorem no_poll_is_half_done (rt : AgentRuntime σ) (m : Monitor) (s : σ) :
    ((tick rt m s).value.1.2 = .degraded →
        (tick rt m s).value.1.1.session = m.session ∧ spoken (tick rt m s).events = [])
      ∧ (tick rt m s).value.1.2 ≠ .applied .discarded
      ∧ ∀ runId, loadHistoricalRun rt m runId
            = bringRun rt m runId >>= handIn runId
          ∧ ∀ brought, (bringRun rt m runId s).value.1 = .ok brought →
              (brought.monitor.session.applySnapshot brought.ticket runId
                brought.run.finalState).value.2 = .applied true .unchanged := by
  refine ⟨fun failed => ?_, tick_ne_discarded rt m s, fun runId =>
    ⟨loadHistoricalRun_eq rt m runId, fun brought ok => ?_⟩⟩
  · obtain ⟨value, detail, said⟩ := tick_of_degraded failed
    exact ⟨by rw [value], by rw [said, spoken_failing]⟩
  · obtain ⟨turned, ticket⟩ := ends_bringRun rt m runId s brought ok
    rw [← ticket]
    exact turned.applied brought.run.finalState

/-- A runtime that tells of a live run but has no definition for it: the poll fails after an
answer, and a finished run can be looked at all the same. -/
theorem no_poll_is_half_done_without_definition :
    let run : HistoricalRun := ⟨none, "loop", {}, some "FAILED", none⟩
    let rt := InMemory.runtime
    let w := (performAll rt
      (ofConfig {}, { InMemory.atGate.addRun "old" run with standing := [⟨"run", {}⟩] })
      [.start]).value
    (rt.fetchActive w.2).1.isOk ∧ (tick rt w.1 w.2).value.1.2 = .degraded
      ∧ (tick rt w.1 w.2).value.1.1.session = w.1.session
      ∧ ∃ brought, (bringRun rt w.1 "old" w.2).value.1 = .ok brought ∧ brought.run = run
        ∧ (brought.monitor.session.applySnapshot brought.ticket "old"
          brought.run.finalState).value.2 = .applied true .unchanged := by
  intro run rt w
  have failed : (tick rt w.1 w.2).value.1.2 = .degraded := by decide +kernel
  obtain ⟨brought, ok, same⟩ : ∃ brought,
      (bringRun rt w.1 "old" w.2).value.1 = .ok brought ∧ brought.run = run := ⟨_, rfl, rfl⟩
  obtain ⟨untouched, -, finished⟩ := no_poll_is_half_done rt w.1 w.2
  exact ⟨rfl, failed, (untouched failed).1, brought, ok, same,
    (finished "old").2 brought ok⟩

end Monitor

end AgentWorkflow
