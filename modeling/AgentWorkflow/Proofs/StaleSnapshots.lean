import AgentWorkflow.Proofs.SessionRuns

/-!
# Which snapshots come too late

A poll takes time. What it brings is of use only while the session still looks
at what it looked at when the poll began, and the ticket is how the session
finds out: it holds the epoch and the mode of that moment, and a snapshot is
taken over only under the ticket that would be given out now.

**Why the ticket is exact.** Four operations make a session look at something
else, or at nothing, and each of them begins an epoch. No other operation
begins one, and no other operation changes the mode
(`Session.beginFetch_perform`). The epoch therefore counts these operations
(`Session.epoch_performAll`). A ticket that is out of date never becomes valid
again, and one of the present epoch was given out after the last of them, when
the mode was what it still is. The mode in the ticket is never what decides.

**How far it counts.** The count grows by at most one with every operation, so
a run of fewer than `2 ^ 64` of them leaves it within a machine word.
-/

namespace AgentWorkflow

namespace Session

/-- **The operation makes the session look elsewhere**, so that polls on their
way lose their meaning. -/
def Operation.beginsEpoch : Operation → Bool
  | .startPolling | .stopPolling | .dispose | .loadHistorical _ => true
  | _ => false

variable {s : Session} {op : Operation}

/-! ## One operation -/

theorem beginFetch_detectGate (s : Session) (requestId : String) (snapshot : Snapshot) :
    (s.detectGate requestId snapshot).value.1.beginFetch = s.beginFetch := by
  rcases s.detectGate_cases requestId snapshot with
    ⟨-, passed⟩ | ⟨nodeId, -, ⟨-, waiting⟩ | ⟨-, -, raised⟩⟩
  · rw [passed, value_passGate]
    rfl
  · rw [waiting]
    rfl
  · rw [raised]
    rfl

theorem beginFetch_applySnapshot (s : Session) (ticket : FetchTicket) (requestId : String)
    (snapshot : Snapshot) :
    (s.applySnapshot ticket requestId snapshot).value.1.beginFetch = s.beginFetch := by
  by_cases stale : ticket ≠ s.beginFetch ∨ s.state = .idle
  · rw [applySnapshot_of_stale stale]
    rfl
  cases mode : s.mode with
  | live =>
    rw [applySnapshot_of_live stale mode]
    exact (s.marked requestId snapshot).beginFetch_detectGate requestId snapshot
  | historical runId =>
    rw [applySnapshot_of_historical stale mode]
    rfl

/-- A snapshot is discarded if its ticket is not the present one, or if nothing
is shown. -/
theorem applySnapshot_eq_discarded_iff {ticket : FetchTicket} {requestId : String}
    {snapshot : Snapshot} :
    (s.applySnapshot ticket requestId snapshot).value.2 = .discarded
      ↔ ticket ≠ s.beginFetch ∨ s.state = .idle := by
  constructor
  · intro discarded
    refine Classical.byContradiction fun current => ?_
    cases mode : s.mode with
    | live =>
      rw [applySnapshot_of_live current mode] at discarded
      cases discarded
    | historical runId =>
      rw [applySnapshot_of_historical current mode] at discarded
      cases discarded
  · intro stale
    rw [applySnapshot_of_stale stale]
    rfl

/-- **An operation that looks elsewhere begins an epoch.** -/
theorem epoch_perform (begins : op.beginsEpoch = true) :
    (s.perform op).value.epoch = s.epoch + 1 := by
  cases op with
  | startPolling =>
    unfold perform startPolling
    rw [value_transition]
  | stopPolling =>
    unfold perform stopPolling
    rw [value_transition]
  | dispose =>
    unfold perform dispose
    rw [value_transition]
  | loadHistorical runId =>
    unfold perform loadHistorical
    rw [Publishing.value_bind, value_transition]
  | _ => cases begins

/-- **An operation that does not look elsewhere leaves epoch and mode alone**, and with
them every ticket. -/
theorem beginFetch_perform (stays : op.beginsEpoch = false) :
    (s.perform op).value.beginFetch = s.beginFetch := by
  cases op with
  | startPolling => cases stays
  | stopPolling => cases stays
  | dispose => cases stays
  | loadHistorical runId => cases stays
  | loadDefinition name report => rfl
  | applySnapshot ticket requestId snapshot =>
    rw [perform, Publishing.value_map]
    exact s.beginFetch_applySnapshot ticket requestId snapshot
  | markFailedFrontier snapshot =>
    rw [perform, Publishing.value_map]
    unfold markFailedFrontier
    split <;> rfl
  | completeApproval requestId approved =>
    rcases s.approvals.waits_or_absent requestId with ⟨r, waiting, rfl⟩ | absent
    · rw [perform_completeApproval_of_waiting approved waiting]
      rfl
    · rw [perform_completeApproval_of_absent approved absent]
      rfl
  | clearInstance =>
    cases watched : s.requestId with
    | none =>
      unfold perform clearInstance
      rw [watched]
      rfl
    | some requestId =>
      unfold perform
      rw [clearInstance_of_watched watched]
      rfl
  | editGraph change => rfl

/-! ## A run -/

/-- **The epoch counts** how often the session was made to look elsewhere. -/
theorem epoch_performAll (s : Session) (ops : List Operation) :
    (s.performAll ops).value.epoch = s.epoch + ops.countP Operation.beginsEpoch := by
  unfold performAll
  induction ops generalizing s with
  | nil => rfl
  | cons op ops ih =>
    rw [List.foldlM_cons, Publishing.value_bind, ih, List.countP_cons]
    cases begins : op.beginsEpoch with
    | true =>
      rw [epoch_perform begins, if_pos rfl]
      omega
    | false =>
      have same : (s.perform op).value.epoch = s.epoch :=
        congrArg FetchTicket.epoch (beginFetch_perform begins)
      rw [same, if_neg Bool.false_ne_true]
      omega

/-- **A ticket stays valid** exactly until the session is made to look
elsewhere. -/
theorem beginFetch_performAll_eq_iff (s : Session) (ops : List Operation) :
    (s.performAll ops).value.beginFetch = s.beginFetch
      ↔ ∀ op ∈ ops, op.beginsEpoch = false := by
  constructor
  · intro same
    have epoch : (s.performAll ops).value.epoch = s.epoch := congrArg FetchTicket.epoch same
    rw [epoch_performAll] at epoch
    have none : ops.countP Operation.beginsEpoch = 0 := by omega
    exact fun op hop => Bool.eq_false_iff.mpr (List.countP_eq_zero.mp none op hop)
  · intro stays
    have step : ∀ op ∈ ops, ∀ t : Session, t.beginFetch = s.beginFetch →
        (t.perform op).value.beginFetch = s.beginFetch :=
      fun op hop t ht => (beginFetch_perform (stays op hop)).trans ht
    exact Publishing.foldlM_preserves_of_mem step rfl

/-- **A snapshot is discarded exactly if it comes too late.** Take any session
that operations lead to, a ticket it gives out, and whatever is done to it
since. A snapshot under that ticket is discarded if and only if the session was
made to look elsewhere in the meantime or shows nothing, and then nothing in
the session changes and nothing is said. A ticket of the present epoch holds
the present mode. The epoch stays within a machine word in any run that is
shorter than what a word can count. -/
theorem snapshot_is_discarded_iff_too_late (gateType : String) (before since : List Operation)
    (requestId : String) (snapshot : Snapshot) :
    let issued := ((initial gateType).performAll before).value
    let ticket := issued.beginFetch
    let s := (issued.performAll since).value
    let answer := s.applySnapshot ticket requestId snapshot
    (answer.value.2 = .discarded ↔ (∃ op ∈ since, op.beginsEpoch = true) ∨ s.state = .idle)
      ∧ (answer.value.2 = .discarded → answer.value.1 = s ∧ answer.events = [])
      ∧ (ticket.epoch = s.epoch → ticket.mode = s.mode)
      ∧ (before.length + since.length < 0x10000000000000000 →
        s.epoch < 0x10000000000000000) := by
  intro issued ticket s answer
  have valid : s.beginFetch = ticket ↔ ∀ op ∈ since, op.beginsEpoch = false :=
    beginFetch_performAll_eq_iff issued since
  have epoch : s.epoch = ticket.epoch + since.countP Operation.beginsEpoch :=
    epoch_performAll issued since
  refine ⟨?_, ?_, ?_, ?_⟩
  · rw [applySnapshot_eq_discarded_iff, ne_comm, Ne, valid]
    simp only [Classical.not_forall, Bool.not_eq_false, exists_prop]
  · intro discarded
    have unchanged : answer = pure (s, .discarded) :=
      applySnapshot_of_stale (applySnapshot_eq_discarded_iff.mp discarded)
    rw [unchanged]
    exact ⟨rfl, rfl⟩
  · intro present
    have none : since.countP Operation.beginsEpoch = 0 := by omega
    have stays : ∀ op ∈ since, op.beginsEpoch = false :=
      fun op hop => Bool.eq_false_iff.mpr (List.countP_eq_zero.mp none op hop)
    exact (congrArg FetchTicket.mode (valid.mpr stays)).symm
  · intro short
    have first : ticket.epoch = 0 + before.countP Operation.beginsEpoch :=
      epoch_performAll (initial gateType) before
    have atBefore : before.countP Operation.beginsEpoch ≤ before.length := List.countP_le_length
    have atSince : since.countP Operation.beginsEpoch ≤ since.length := List.countP_le_length
    omega

/-- A poll that is on its way when watching stops, and one that is on its way
while another definition is shown and the gate is found. -/
theorem snapshot_is_discarded_iff_too_late_at_gate :
    (let issued := ((initial "GateNode").performAll (toGate.take 2)).value
      let s := (issued.performAll [.stopPolling]).value
      let answer := s.applySnapshot issued.beginFetch "run" .atGate
      answer.value.2 = .discarded ∧ answer.value.1 = s ∧ answer.events = []
        ∧ s.epoch < 0x10000000000000000)
      ∧ let issued := ((initial "GateNode").performAll (toGate.take 2)).value
        let s := (issued.performAll [.loadDefinition "loop" ⟨.singleGate, []⟩]).value
        issued.beginFetch.mode = s.mode
          ∧ (s.applySnapshot issued.beginFetch "run" .atGate).value.2 ≠ .discarded := by
  refine ⟨?_, ?_⟩
  · intro issued s answer
    obtain ⟨discarded, unchanged, -, word⟩ := snapshot_is_discarded_iff_too_late "GateNode"
      (toGate.take 2) [.stopPolling] "run" .atGate
    have late : answer.value.2 = .discarded :=
      discarded.mpr (Or.inl ⟨.stopPolling, List.mem_singleton_self _, rfl⟩)
    exact ⟨late, (unchanged late).1, (unchanged late).2, word (by decide)⟩
  · intro issued s
    obtain ⟨discarded, -, mode, -⟩ := snapshot_is_discarded_iff_too_late "GateNode"
      (toGate.take 2) [.loadDefinition "loop" ⟨.singleGate, []⟩] "run" .atGate
    refine ⟨mode rfl, fun late => ?_⟩
    rcases discarded.mp late with ⟨op, hop, begins⟩ | idle
    · obtain rfl := List.mem_singleton.mp hop
      cases begins
    · cases idle

end Session

end AgentWorkflow
