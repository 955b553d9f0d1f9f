import AgentWorkflow.Proofs.Publishing
import AgentWorkflow.Session

/-!
# Runs of a session

Everything that can be done to a session, as one type of operations, and what
it does. A run is any finite list of operations, in any order; the operator who
edits the graph by hand is one of them, with an edit that may change the graph
into any other.

The second half says what each operation leaves behind, in the form in which
later arguments use it: the value of an operation is an explicit session, and a
snapshot does one of three things to the gate that waits
(`Session.detectGate_cases`).
-/

namespace AgentWorkflow

namespace Session

/-- A session that nothing was done to. -/
def initial (gateType : String) : Session := { gateType }

/-- **What can be done to a session.** -/
inductive Operation where
  /-- Live runs are watched from now on. -/
  | startPolling
  /-- Nothing is watched any more. -/
  | stopPolling
  /-- Nothing is shown any more. -/
  | dispose
  /-- A finished run is looked at. -/
  | loadHistorical (runId : String)
  /-- Another definition is shown. -/
  | loadDefinition (name : String) (report : Graph.Report)
  /-- A snapshot of some run arrives, under any ticket. -/
  | applySnapshot (ticket : FetchTicket) (requestId : String) (snapshot : Snapshot)
  /-- The nodes where a failed run may have stopped are marked. -/
  | markFailedFrontier (snapshot : Snapshot)
  /-- The operator answers. -/
  | completeApproval (requestId : String) (approved : Bool)
  /-- The run that was watched is gone. -/
  | clearInstance
  /-- The graph is edited, in any way. -/
  | editGraph (change : Graph → Graph)

/-- **One operation.** An answer that is refused changes nothing. -/
def perform (s : Session) : Operation → Publishing Session
  | .startPolling => s.startPolling
  | .stopPolling => s.stopPolling
  | .dispose => s.dispose
  | .loadHistorical runId => s.loadHistorical runId
  | .loadDefinition name report => s.loadDefinition name report
  | .applySnapshot ticket requestId snapshot =>
    Prod.fst <$> s.applySnapshot ticket requestId snapshot
  | .markFailedFrontier snapshot => Prod.fst <$> s.markFailedFrontier snapshot
  | .completeApproval requestId approved =>
    match s.completeApproval requestId approved with
    | .ok completed => Prod.fst <$> completed
    | .error _ => pure s
  | .clearInstance => s.clearInstance
  | .editGraph change => pure { s with graph := change s.graph }

/-- **A run**: one operation after the other. -/
def performAll (s : Session) (ops : List Operation) : Publishing Session :=
  ops.foldlM perform s

end Session

/-! ## Small steps -/

@[simp] theorem Publishing.value_map {α β : Type} (f : α → β) (p : Publishing α) :
    (f <$> p).value = f p.value := rfl

@[simp] theorem Publishing.events_map {α β : Type} (f : α → β) (p : Publishing α) :
    (f <$> p).events = p.events := List.append_nil p.events

namespace Approvals

@[simp] theorem value_clear (a : Approvals) : a.clear.value = a.discard := by
  unfold clear discard
  split
  · next h => simp [← h]
  · rfl

theorem events_clear (a : Approvals) :
    a.clear.events = (a.outstanding.map fun r => Event.approvalCleared r.requestId).toList := by
  unfold clear
  split
  · next h => simp [h]
  · next r h => simp [h]

theorem isOutstanding_iff (a : Approvals) (r : ApprovalRequest) :
    a.isOutstanding r = true ↔ a.outstanding.map ApprovalRequest.gate = some r.gate := by
  unfold isOutstanding
  cases a.outstanding <;> simp

theorem isResolved_iff (a : Approvals) (requestId nodeId : String) :
    a.isResolved requestId nodeId = true ↔ (requestId, nodeId) ∈ a.resolved := by
  simp [isResolved]

theorem get_eq_ok_iff {a : Approvals} {requestId : String} {r : ApprovalRequest} :
    a.get requestId = .ok r ↔ a.outstanding = some r ∧ r.requestId = requestId := by
  unfold get
  split
  · next current h =>
    split
    · next hr => simp only [Except.ok.injEq, Option.some.injEq, h]; grind
    · next hr => simp only [reduceCtorEq, Option.some.injEq, h, false_iff]; grind
  · next h => simp [h]

theorem get_of_absent {a : Approvals} {requestId : String}
    (absent : ∀ r, a.outstanding = some r → r.requestId ≠ requestId) :
    a.get requestId = .error (.noOutstandingApproval requestId) := by
  unfold get
  split
  · next r hr => exact if_neg (absent r hr)
  · rfl

theorem waits_or_absent (a : Approvals) (requestId : String) :
    (∃ r, a.outstanding = some r ∧ r.requestId = requestId)
      ∨ ∀ r, a.outstanding = some r → r.requestId ≠ requestId := by
  by_cases waits : ∃ r, a.outstanding = some r ∧ r.requestId = requestId
  · exact Or.inl waits
  · exact Or.inr fun r hr same => waits ⟨r, hr, same⟩

end Approvals

namespace Session

@[simp] theorem value_transition (s : Session) (state : SessionState) :
    (s.transition state).value = { s with state } := by
  unfold transition
  split
  · next h => rw [← h]; rfl
  · rfl

theorem events_transition (s : Session) (state : SessionState) :
    (s.transition state).events
      = if s.state = state then [] else [.stateChanged s.state state] := by
  unfold transition
  split <;> rfl

@[simp] theorem value_resume (s : Session) :
    s.resume.value
      = { s with state := if s.state = .gateActive then .polling else s.state } := by
  unfold resume
  split
  · exact value_transition s .polling
  · rfl

theorem events_resume (s : Session) :
    s.resume.events
      = if s.state = .gateActive then [.stateChanged .gateActive .polling] else [] := by
  unfold resume
  split
  · next h => rw [events_transition, h]; rfl
  · rfl

/-- Turning to a finished run leads to an explicit session. -/
theorem value_loadHistorical (s : Session) (runId : String) :
    (s.loadHistorical runId).value
      = { s with
          epoch := s.epoch + 1
          approvals := s.approvals.discard
          mode := .historical runId
          requestId := none
          signature := none
          state := .stopped } := by
  unfold loadHistorical
  rw [Publishing.value_bind, value_transition, Approvals.value_clear]

/-! ## Marking nodes -/

/-- The graph after a snapshot: marked anew unless the same nodes of the same
run were marked last. -/
def markedGraph (s : Session) (requestId : String) (snapshot : Snapshot) : Graph :=
  if s.requestId = some requestId ∧ s.signature = some snapshot.signature then s.graph
  else (s.markExecuted snapshot).graph

/-- The session after a snapshot has been marked, before gates are looked for. -/
def marked (s : Session) (requestId : String) (snapshot : Snapshot) : Session :=
  { s with
    requestId := some requestId
    signature := some snapshot.signature
    graph := s.markedGraph requestId snapshot }

theorem value_applyStatuses (s : Session) (requestId : String) (snapshot : Snapshot) :
    ((s.watch requestId).applyStatuses requestId snapshot).value.1
      = s.marked requestId snapshot := by
  unfold applyStatuses watch marked markedGraph
  by_cases hid : s.requestId = some requestId
  · by_cases hsig : s.signature = some snapshot.signature
    · simp only [hid, hsig, and_self, if_true, Publishing.value_pure]
      rw [← hid, ← hsig]
    · simp [hid, hsig, markExecuted]
  · simp [hid, markExecuted]

/-! ## Gates -/

/-- The request a snapshot makes when it finds a run at a gate. -/
def requestAt (requestId nodeId : String) (snapshot : Snapshot) : ApprovalRequest :=
  ⟨requestId, nodeId, (snapshot.output? nodeId).getD .null⟩

/-- The graph with the gate that waited no longer marked as such. -/
def freedGraph (s : Session) : Graph :=
  match s.approvals.outstanding with
  | none => s.graph
  | some former => (s.ungate former.nodeId).graph

/-- The session after a run has moved past the gate that waited. -/
def passed (s : Session) : Session :=
  { s with
    state := if s.approvals.outstanding.isSome then .polling else s.state
    approvals := s.approvals.discard
    graph := s.freedGraph }

/-- The session at a gate that did not wait before. -/
def raised (s : Session) (r : ApprovalRequest) : Session :=
  { s with
    state := .gateActive
    approvals := { s.approvals with outstanding := some r }
    graph := s.freedGraph.updateNode r.nodeId fun n => { n with status := .gated } }

/-- **Raising a gate** in place of the one that waited. -/
def raiseGate (s : Session) (r : ApprovalRequest) : Publishing (Session × GateChange) where
  value := (s.raised r, .requested)
  events := s.approvals.clear.events ++ [.approvalRequested r] ++ (s.transition .gateActive).events

theorem value_passGate (s : Session) : s.passGate.value.1 = s.passed := by
  cases s with
  | mk _ _ _ _ _ _ _ _ approvals _ =>
    cases approvals with
    | mk outstanding _ =>
      cases outstanding with
      | none => rfl
      | some r => simp [passGate, passed, freedGraph, ungate, Approvals.discard]

/-- **A gate that is no longer reported, or was answered, is passed.** -/
theorem detectGate_of_passed {s : Session} {requestId : String} {snapshot : Snapshot}
    (h : ∀ nodeId, s.waitingGate? snapshot = some nodeId →
      s.approvals.outstanding.map ApprovalRequest.gate ≠ some (requestId, nodeId)
        ∧ (requestId, nodeId) ∈ s.approvals.resolved) :
    s.detectGate requestId snapshot = s.passGate := by
  unfold detectGate
  split
  · rfl
  · next nodeId found =>
    obtain ⟨other, answered⟩ := h nodeId found
    have hout : s.approvals.isOutstanding (requestAt requestId nodeId snapshot) = false :=
      Bool.eq_false_iff.mpr fun h => other ((Approvals.isOutstanding_iff ..).mp h)
    have hres := (Approvals.isResolved_iff ..).mpr answered
    simp only [requestAt] at hout
    simp [Approvals.offer, hout, hres]

/-- **A gate that waits already goes on waiting**, and nothing is said. -/
theorem detectGate_of_waiting {s : Session} {requestId nodeId : String} {snapshot : Snapshot}
    (found : s.waitingGate? snapshot = some nodeId)
    (waiting : s.approvals.outstanding.map ApprovalRequest.gate = some (requestId, nodeId)) :
    s.detectGate requestId snapshot = pure (s, .unchanged) := by
  have hout : s.approvals.isOutstanding (requestAt requestId nodeId snapshot) = true :=
    (Approvals.isOutstanding_iff ..).mpr waiting
  simp only [requestAt] at hout
  unfold detectGate
  simp [found, Approvals.offer, hout]

/-- **A gate that is neither waiting nor answered is raised**, in place of the
one that waited. -/
theorem detectGate_of_new {s : Session} {requestId nodeId : String} {snapshot : Snapshot}
    (found : s.waitingGate? snapshot = some nodeId)
    (other : s.approvals.outstanding.map ApprovalRequest.gate ≠ some (requestId, nodeId))
    (fresh : (requestId, nodeId) ∉ s.approvals.resolved) :
    s.detectGate requestId snapshot = s.raiseGate (requestAt requestId nodeId snapshot) := by
  have hout : s.approvals.isOutstanding (requestAt requestId nodeId snapshot) = false :=
    Bool.eq_false_iff.mpr fun h => other ((Approvals.isOutstanding_iff ..).mp h)
  have hres : s.approvals.isResolved requestId nodeId = false :=
    Bool.eq_false_iff.mpr fun h => fresh ((Approvals.isResolved_iff ..).mp h)
  simp only [requestAt] at hout
  unfold detectGate raiseGate raised freedGraph requestAt
  cases h : s.approvals.outstanding with
  | none =>
    refine Publishing.ext ?_ ?_
    · simp [found, Approvals.offer, hout, hres, Approvals.discard]
    · simp [found, Approvals.offer, hout, hres, events_transition]
  | some former =>
    refine Publishing.ext ?_ ?_
    · simp [found, Approvals.offer, hout, hres, Approvals.discard, ungate]
    · simp [found, Approvals.offer, hout, hres, events_transition, ungate]

/-- **What a snapshot can do to a gate**: the one that waits is passed, or it
goes on waiting, or another one is raised. -/
theorem detectGate_cases (s : Session) (requestId : String) (snapshot : Snapshot) :
    ((∀ nodeId, s.waitingGate? snapshot = some nodeId → (requestId, nodeId) ∈ s.approvals.resolved)
        ∧ s.detectGate requestId snapshot = s.passGate)
      ∨ ∃ nodeId, s.waitingGate? snapshot = some nodeId
        ∧ ((s.approvals.outstanding.map ApprovalRequest.gate = some (requestId, nodeId)
              ∧ s.detectGate requestId snapshot = pure (s, .unchanged))
            ∨ (s.approvals.outstanding.map ApprovalRequest.gate ≠ some (requestId, nodeId)
              ∧ (requestId, nodeId) ∉ s.approvals.resolved
              ∧ s.detectGate requestId snapshot
                = s.raiseGate (requestAt requestId nodeId snapshot))) := by
  cases found : s.waitingGate? snapshot with
  | none => exact Or.inl ⟨nofun, detectGate_of_passed fun _ h => by simp [found] at h⟩
  | some nodeId =>
    by_cases waiting : s.approvals.outstanding.map ApprovalRequest.gate = some (requestId, nodeId)
    · exact Or.inr ⟨nodeId, rfl, Or.inl ⟨waiting, detectGate_of_waiting found waiting⟩⟩
    by_cases answered : (requestId, nodeId) ∈ s.approvals.resolved
    · refine Or.inl ⟨fun other h => ?_, detectGate_of_passed fun other h => ?_⟩
      · obtain rfl : nodeId = other := Option.some.inj h
        exact answered
      · obtain rfl : nodeId = other := Option.some.inj (found.symm.trans h)
        exact ⟨waiting, answered⟩
    · refine Or.inr ⟨nodeId, rfl, Or.inr ⟨waiting, answered, ?_⟩⟩
      exact detectGate_of_new found waiting answered

/-- Looking for gates passes the gate that waits, or leaves the session as it is, or leads
to another gate. -/
theorem value_detectGate (s : Session) (requestId : String) (snapshot : Snapshot) :
    (s.detectGate requestId snapshot).value.1 = s.passed
      ∨ (s.detectGate requestId snapshot).value.1 = s
      ∨ ∃ r, (s.detectGate requestId snapshot).value.1 = s.raised r := by
  rcases s.detectGate_cases requestId snapshot with
    ⟨-, passed⟩ | ⟨nodeId, -, ⟨-, waiting⟩ | ⟨-, -, raised⟩⟩
  · rw [passed, value_passGate]
    exact Or.inl rfl
  · rw [waiting]
    exact Or.inr (Or.inl rfl)
  · rw [raised]
    exact Or.inr (Or.inr ⟨_, rfl⟩)

/-- Looking for gates changes neither the run that is watched nor what counts as
a gate. -/
theorem detectGate_keeps (s : Session) (requestId : String) (snapshot : Snapshot) :
    (s.detectGate requestId snapshot).value.1.requestId = s.requestId
      ∧ (s.detectGate requestId snapshot).value.1.gateType = s.gateType := by
  rcases s.detectGate_cases requestId snapshot with
    ⟨-, passed⟩ | ⟨nodeId, -, ⟨-, waiting⟩ | ⟨-, -, raised⟩⟩
  · rw [passed, value_passGate]
    exact ⟨rfl, rfl⟩
  · rw [waiting]
    exact ⟨rfl, rfl⟩
  · rw [raised]
    exact ⟨rfl, rfl⟩

/-! ## Snapshots -/

/-- **A snapshot that comes too late**, or when nothing is shown, changes
nothing. -/
theorem applySnapshot_of_stale {s : Session} {ticket : FetchTicket} {requestId : String}
    {snapshot : Snapshot} (stale : ticket ≠ s.beginFetch ∨ s.state = .idle) :
    s.applySnapshot ticket requestId snapshot = pure (s, .discarded) :=
  if_pos stale

/-- A snapshot comes in time if its ticket is the present one and something is
shown. -/
theorem not_stale_iff {s : Session} {ticket : FetchTicket} :
    ¬(ticket ≠ s.beginFetch ∨ s.state = .idle) ↔ ticket = s.beginFetch ∧ s.state ≠ .idle := by
  rw [not_or, Ne, Classical.not_not]

/-- **A snapshot of a live run** marks nodes, then looks for gates. -/
theorem applySnapshot_of_live {s : Session} {ticket : FetchTicket} {requestId : String}
    {snapshot : Snapshot} (current : ¬(ticket ≠ s.beginFetch ∨ s.state = .idle))
    (live : s.mode = .live) :
    let statuses := (s.watch requestId).applyStatuses requestId snapshot
    let gates := (s.marked requestId snapshot).detectGate requestId snapshot
    s.applySnapshot ticket requestId snapshot
      = ⟨(gates.value.1, .applied statuses.value.2 gates.value.2),
          statuses.events ++ gates.events⟩ := by
  have hmode : (s.marked requestId snapshot).mode = .live := live
  refine (if_neg current).trans ?_
  refine Publishing.ext ?_ ?_
  · simp only [Publishing.value_bind, value_applyStatuses, hmode, Publishing.value_pure]
  · simp only [Publishing.events_bind, value_applyStatuses, hmode, Publishing.events_pure,
      List.append_nil]

/-- **A snapshot of a finished run** marks nodes and does nothing else. -/
theorem applySnapshot_of_historical {s : Session} {ticket : FetchTicket} {requestId runId : String}
    {snapshot : Snapshot} (current : ¬(ticket ≠ s.beginFetch ∨ s.state = .idle))
    (historical : s.mode = .historical runId) :
    let statuses := (s.watch requestId).applyStatuses requestId snapshot
    s.applySnapshot ticket requestId snapshot
      = ⟨(s.marked requestId snapshot, .applied statuses.value.2 .unchanged),
          statuses.events⟩ := by
  have hmode : (s.marked requestId snapshot).mode = .historical runId := historical
  refine (if_neg current).trans ?_
  refine Publishing.ext ?_ ?_
  · simp only [Publishing.value_bind, value_applyStatuses, hmode, Publishing.value_pure]
  · simp only [Publishing.events_bind, value_applyStatuses, hmode, Publishing.events_pure,
      List.append_nil]

/-! ## Answers -/

/-- The session after the gate that waited was answered. -/
def answered (s : Session) (r : ApprovalRequest) : Session :=
  { s with
    state := if s.state = .gateActive then .polling else s.state
    approvals := ⟨none, r.gate :: s.approvals.resolved⟩
    graph := (s.ungate r.nodeId).graph }

theorem graph_answered {s : Session} {r : ApprovalRequest}
    (waiting : s.approvals.outstanding = some r) : (s.answered r).graph = s.freedGraph := by
  unfold answered freedGraph
  rw [waiting]

/-- **An answer to the gate that waits is recorded.** -/
theorem completeApproval_of_waiting {s : Session} {r : ApprovalRequest} (approved : Bool)
    (waiting : s.approvals.outstanding = some r) :
    s.completeApproval r.requestId approved
      = .ok ⟨(s.answered r, r), .approvalResolved r.requestId approved :: s.resume.events⟩ := by
  have hget : s.approvals.get r.requestId = .ok r := Approvals.get_eq_ok_iff.mpr ⟨waiting, rfl⟩
  unfold completeApproval Approvals.resolve
  rw [hget]
  refine congrArg Except.ok (Publishing.ext ?_ ?_)
  · simp [answered, ungate]
  · simp [events_resume, ungate]

/-- **An answer to anything else is refused.** -/
theorem completeApproval_of_absent {s : Session} {requestId : String} (approved : Bool)
    (absent : ∀ r, s.approvals.outstanding = some r → r.requestId ≠ requestId) :
    s.completeApproval requestId approved = .error (.noOutstandingApproval requestId) := by
  unfold completeApproval Approvals.resolve
  rw [Approvals.get_of_absent absent]
  rfl

theorem perform_completeApproval_of_waiting {s : Session} {r : ApprovalRequest} (approved : Bool)
    (waiting : s.approvals.outstanding = some r) :
    s.perform (.completeApproval r.requestId approved)
      = ⟨s.answered r, .approvalResolved r.requestId approved :: s.resume.events⟩ := by
  unfold perform
  dsimp only
  rw [completeApproval_of_waiting approved waiting]
  exact Publishing.ext rfl (Publishing.events_map ..)

theorem perform_completeApproval_of_absent {s : Session} {requestId : String} (approved : Bool)
    (absent : ∀ r, s.approvals.outstanding = some r → r.requestId ≠ requestId) :
    s.perform (.completeApproval requestId approved) = pure s := by
  unfold perform
  dsimp only
  rw [completeApproval_of_absent approved absent]

/-- An answer is recorded if and only if a gate of that run waits. -/
theorem completeApproval_isOk_iff {s : Session} {requestId : String} {approved : Bool} :
    (∃ completed, s.completeApproval requestId approved = .ok completed)
      ↔ ∃ r, s.approvals.outstanding = some r ∧ r.requestId = requestId := by
  constructor
  · rintro ⟨completed, h⟩
    rcases s.approvals.waits_or_absent requestId with waits | absent
    · exact waits
    · rw [completeApproval_of_absent approved absent] at h
      cases h
  · rintro ⟨r, waiting, rfl⟩
    exact ⟨_, completeApproval_of_waiting approved waiting⟩

/-- **The run that was watched is gone**, and with it the gate that waited. -/
theorem clearInstance_of_watched {s : Session} {requestId : String}
    (watched : s.requestId = some requestId) :
    s.clearInstance
      = ⟨{ s with
            state := if s.state = .gateActive then .polling else s.state
            requestId := none
            approvals := s.approvals.discard
            graph := s.freedGraph },
          s.approvals.clear.events ++ s.resume.events⟩ := by
  unfold clearInstance freedGraph
  rw [watched]
  cases h : s.approvals.outstanding with
  | none => exact Publishing.ext (by simp) (by simp [events_resume])
  | some r => exact Publishing.ext (by simp [ungate]) (by simp [events_resume, ungate])

end Session

/-! ## The smallest run that waits -/

/-- A graph with a gate and nothing else. -/
def Graph.singleGate : Graph :=
  push {} (.ofSpec "gate" "agent/GateNode" { name := "GateNode", title := "Gate" })
    List.not_mem_nil

/-- A snapshot of a run at that gate. -/
def Snapshot.atGate : Snapshot := { nodeOutputs := [("gate", .null)] }

/-- A run that leads to that gate. -/
def Session.toGate : List Session.Operation :=
  [.loadDefinition "loop" ⟨.singleGate, []⟩, .startPolling,
    .applySnapshot ⟨1, .live⟩ "run" .atGate]

end AgentWorkflow
