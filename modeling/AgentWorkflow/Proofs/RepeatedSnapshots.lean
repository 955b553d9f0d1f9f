import AgentWorkflow.Proofs.GateDetection
import AgentWorkflow.Proofs.Signatures
import AgentWorkflow.Proofs.StaleSnapshots

/-!
# A snapshot that is reported again

A runtime reports the same snapshot for as long as nothing happens, and a monitor hands
each report in. Only the first one may do anything. What it did may be a lot: it may turn
to another run, mark nodes, raise a gate, put it in the place of another one, pass the one
that waited, or find one that was answered. Whatever it was, the same snapshot again
changes nothing, and nothing is said (`Session.repeated_snapshots_change_nothing`).

**Why.** A session *reflects* a snapshot if it watches that run, has marked those nodes, and
waits at the gate that the snapshot finds, or at none if that one was answered
(`Session.Reflects`). A snapshot leaves a session that reflects it as it is, and no other
one (`Session.applySnapshot_eq_unchanged_iff`); and a session that has taken a snapshot
over reflects it (`Session.reflects_applySnapshot`). No other part of the session comes
into it, so this holds of sessions in which state, run and approval do not even agree.
-/

namespace AgentWorkflow

namespace Session

variable {s t : Session} {ticket : FetchTicket} {requestId : String} {snapshot : Snapshot}

/-- **The gate that waits is the one that is found**, or none waits and what is found was
answered. -/
def GateSettled (s : Session) (requestId : String) (snapshot : Snapshot) : Prop :=
  (∃ nodeId, s.waitingGate? snapshot = some nodeId ∧ s.WaitsAt (requestId, nodeId))
    ∨ s.approvals.outstanding = none
      ∧ ∀ nodeId, s.waitingGate? snapshot = some nodeId → (requestId, nodeId) ∈ s.approvals.resolved

/-- **The session shows what the snapshot reports.** -/
structure Reflects (s : Session) (requestId : String) (snapshot : Snapshot) : Prop where
  /-- What was marked last is what it reports. -/
  remembers : s.Remembers requestId snapshot.signature
  /-- In a live run, the gate that waits is the one it finds. -/
  settled : s.mode = .live → s.GateSettled requestId snapshot

/-! ## Gates -/

/-- Which gate is found is a matter of the types of nodes. -/
theorem waitingGate?_congr (types : s.graph.SameTypes t.graph) (gate : t.gateType = s.gateType) :
    t.waitingGate? snapshot = s.waitingGate? snapshot := by
  refine Option.ext fun nodeId => ?_
  rw [waitingGate?_eq_some_iff, waitingGate?_eq_some_iff, gate, types.hasGate_iff]

/-- Passing a gate does nothing if none waits, and otherwise says that it is cleared. -/
theorem passGate_eq_unchanged_iff :
    s.passGate.value.2 = .unchanged ↔ s.approvals.outstanding = none := by
  unfold passGate
  split
  · next none => exact iff_of_true rfl none
  · next r waiting => exact iff_of_false nofun fun none => nomatch none.symm.trans waiting

/-- **A gate that is settled is left alone.** -/
theorem detectGate_of_settled (h : s.GateSettled requestId snapshot) :
    s.detectGate requestId snapshot = pure (s, .unchanged) := by
  rcases h with ⟨nodeId, found, waits⟩ | ⟨none, answered⟩
  · exact detectGate_of_waiting found waits
  · have passed : s.detectGate requestId snapshot = s.passGate :=
      detectGate_of_passed fun nodeId found => ⟨by rw [none]; nofun, answered nodeId found⟩
    rw [passed]
    unfold passGate
    rw [none]

/-- A gate that is left alone is settled. -/
theorem settled_of_detectGate
    (unchanged : (s.detectGate requestId snapshot).value.2 = .unchanged) :
    s.GateSettled requestId snapshot := by
  rcases s.detectGate_cases requestId snapshot with
    ⟨answered, passed⟩ | ⟨nodeId, found, ⟨waiting, -⟩ | ⟨-, -, raised⟩⟩
  · rw [passed, passGate_eq_unchanged_iff] at unchanged
    exact Or.inr ⟨unchanged, answered⟩
  · exact Or.inl ⟨nodeId, found, waiting⟩
  · rw [raised] at unchanged
    cases unchanged

/-- **After gates were looked for, the gate is settled**: it was passed, or it waits, or it was
raised just now. -/
theorem settled_detectGate (s : Session) (requestId : String) (snapshot : Snapshot) :
    (s.detectGate requestId snapshot).value.1.GateSettled requestId snapshot := by
  rcases s.detectGate_cases requestId snapshot with
    ⟨answered, passed⟩ | ⟨nodeId, found, ⟨waiting, waits⟩ | ⟨-, -, raised⟩⟩
  · have same : s.passed.waitingGate? snapshot = s.waitingGate? snapshot :=
      waitingGate?_congr s.sameTypes_freedGraph rfl
    rw [passed, value_passGate]
    exact Or.inr ⟨rfl, fun nodeId found => answered nodeId (same.symm.trans found)⟩
  · rw [waits]
    exact Or.inl ⟨nodeId, found, waiting⟩
  · have same : (s.raised (requestAt requestId nodeId snapshot)).waitingGate? snapshot
        = s.waitingGate? snapshot := waitingGate?_congr (s.sameTypes_raised _) rfl
    rw [raised]
    exact Or.inl ⟨nodeId, same.trans found, rfl⟩

theorem state_detectGate_ne_idle (shown : s.state ≠ .idle) :
    (s.detectGate requestId snapshot).value.1.state ≠ .idle := by
  rcases s.value_detectGate requestId snapshot with passed | waits | ⟨r, raised⟩
  · rw [passed]
    show (if s.approvals.outstanding.isSome then SessionState.polling else s.state) ≠ .idle
    split
    · nofun
    · exact shown
  · rw [waits]
    exact shown
  · rw [raised]
    nofun

/-! ## Snapshots -/

/-- Nothing is marked of what was marked last. -/
theorem marked_of_remembers (h : s.Remembers requestId snapshot.signature) :
    s.marked requestId snapshot = s := by
  have graph : s.markedGraph requestId snapshot = s.graph := if_pos h
  unfold marked
  rw [graph, ← h.1, ← h.2]

/-- A ticket stays good when a snapshot is taken over under it. -/
theorem takesOver_applySnapshot (inTime : s.TakesOver ticket) :
    (s.applySnapshot ticket requestId snapshot).value.1.TakesOver ticket := by
  refine ⟨inTime.1.trans (s.beginFetch_applySnapshot ticket requestId snapshot).symm, ?_⟩
  have current := not_stale_iff.mpr inTime
  cases mode : s.mode with
  | live =>
    rw [applySnapshot_of_live current mode]
    exact state_detectGate_ne_idle (s := s.marked requestId snapshot) inTime.2
  | historical runId =>
    rw [applySnapshot_of_historical current mode]
    exact inTime.2

/-- **A snapshot that is taken over is reflected.** -/
theorem reflects_applySnapshot (inTime : s.TakesOver ticket) (requestId : String)
    (snapshot : Snapshot) :
    (s.applySnapshot ticket requestId snapshot).value.1.Reflects requestId snapshot := by
  refine ⟨applySnapshot_of_takesOver inTime requestId snapshot, fun live => ?_⟩
  have current := not_stale_iff.mpr inTime
  cases mode : s.mode with
  | live =>
    rw [applySnapshot_of_live current mode]
    exact (s.marked requestId snapshot).settled_detectGate requestId snapshot
  | historical runId =>
    rw [applySnapshot_of_historical current mode] at live
    cases mode.symm.trans live

/-- **A snapshot is taken over without doing anything** if and only if the session reflects it
already. -/
theorem applySnapshot_eq_unchanged_iff :
    s.applySnapshot ticket requestId snapshot = pure (s, .applied false .unchanged)
      ↔ s.TakesOver ticket ∧ s.Reflects requestId snapshot := by
  constructor
  · intro unchanged
    have outcome : (s.applySnapshot ticket requestId snapshot).value.2
        = .applied false .unchanged := by rw [unchanged]; rfl
    obtain ⟨inTime, remembers⟩ := applySnapshot_leaves_iff.mp ⟨_, outcome⟩
    refine ⟨inTime, remembers, fun live => settled_of_detectGate ?_⟩
    rw [applySnapshot_of_live (not_stale_iff.mpr inTime) live, marked_of_remembers remembers]
      at outcome
    exact (ApplyOutcome.applied.inj outcome).2
  · rintro ⟨inTime, remembers, settled⟩
    have current := not_stale_iff.mpr inTime
    have watched : s.watch requestId = s := if_pos remembers.1
    have statuses : s.applyStatuses requestId snapshot = pure (s, false) := if_pos remembers.2
    cases mode : s.mode with
    | live =>
      rw [applySnapshot_of_live current mode, watched, statuses, marked_of_remembers remembers,
        detectGate_of_settled (settled mode)]
      rfl
    | historical runId =>
      rw [applySnapshot_of_historical current mode, watched, statuses,
        marked_of_remembers remembers]
      rfl

/-- **A snapshot that is reported again changes nothing.** Take any session, any ticket and any
snapshot of any run, and hand the snapshot in twice. The second time the session stays exactly
as it is and nothing is said; the snapshot is discarded if it was the first time, and otherwise
marks no node and changes no gate. A snapshot that was not discarded is reflected by then, and
only a session that reflects a snapshot is left alone by it. -/
theorem repeated_snapshots_change_nothing (s : Session) (ticket : FetchTicket)
    (requestId : String) (snapshot : Snapshot) :
    let once := s.applySnapshot ticket requestId snapshot
    once.value.1.applySnapshot ticket requestId snapshot
        = pure (once.value.1,
            if once.value.2 = .discarded then .discarded else .applied false .unchanged)
      ∧ (once.value.2 = .discarded ∨ once.value.1.Reflects requestId snapshot)
      ∧ (once = pure (s, .applied false .unchanged)
        ↔ s.TakesOver ticket ∧ s.Reflects requestId snapshot) := by
  intro once
  by_cases inTime : s.TakesOver ticket
  · have reflects := reflects_applySnapshot inTime requestId snapshot
    have taken : once.value.2 ≠ .discarded :=
      fun late => not_stale_iff.mpr inTime (applySnapshot_eq_discarded_iff.mp late)
    rw [if_neg taken]
    exact ⟨applySnapshot_eq_unchanged_iff.mpr ⟨takesOver_applySnapshot inTime, reflects⟩,
      Or.inr reflects, applySnapshot_eq_unchanged_iff⟩
  · have stale := Classical.not_not.mp (mt not_stale_iff.mp inTime)
    have late : once = pure (s, .discarded) := applySnapshot_of_stale stale
    rw [late]
    exact ⟨late, Or.inl rfl, late ▸ applySnapshot_eq_unchanged_iff⟩

end Session

end AgentWorkflow
