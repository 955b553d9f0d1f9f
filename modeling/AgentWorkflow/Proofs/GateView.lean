import AgentWorkflow.Proofs.SessionRuns

/-!
# What a session knows about its gates

Whether a gate waits, which one, and what becomes of it depends on four parts
of a session: its state, its mode, the run it watches and its approvals. They
are its **gate view**. Graphs, diagnostics, signatures and epochs only decide
*which* of a few turns the view takes, and this module says what the turns are:
`GateView.Turn` has one constructor for each thing an operation can do to a
view, together with what is said about gates on the way, and
`Session.perform_turn` says that an operation does nothing else.

Everything about the order in which gates are requested, answered and cleared
then follows from the turns alone, by a case for each of them and an induction
on the run.
-/

namespace AgentWorkflow

/-- Whether an event tells of a gate. -/
def Event.isApproval : Event → Bool
  | .approvalRequested _ | .approvalResolved _ _ | .approvalCleared _ => true
  | _ => false

/-- What a publication says about gates, in order. -/
def Publishing.approvals {α : Type} (p : Publishing α) : List Event :=
  p.events.filter Event.isApproval

/-- The part of a session that gates depend on. -/
structure GateView where
  /-- Where the session stands. -/
  state : SessionState
  /-- What it looks at. -/
  mode : ViewMode
  /-- The run that is watched. -/
  requestId : Option String
  /-- The gate that waits, and those that were answered. -/
  approvals : Approvals

namespace GateView

/-- The state in which the session goes on when no gate waits any more. -/
def resumed (v : GateView) : SessionState :=
  if v.state = .gateActive then .polling else v.state

/-- **What an operation can do to a view**, and what it says about gates. -/
inductive Turn (v : GateView) : Session.Operation → List Event → GateView → Prop
  /-- Watching begins, and a gate that waits is dropped without a word. -/
  | startPolling :
    Turn v .startPolling [] ⟨.polling, .live, none, v.approvals.discard⟩
  /-- Watching ends, and a gate that waits goes on waiting. -/
  | stopPolling : Turn v .stopPolling [] { v with state := .stopped }
  /-- Everything is forgotten. -/
  | dispose : Turn v .dispose [] ⟨.idle, .live, none, {}⟩
  /-- A finished run is turned to, and a gate that waits is cleared. -/
  | loadHistorical (runId : String) :
    Turn v (.loadHistorical runId) v.approvals.clear.events
      ⟨.stopped, .historical runId, none, v.approvals.discard⟩
  /-- The graph is no concern of gates that wait. -/
  | loadDefinition (name : String) (report : Graph.Report) :
    Turn v (.loadDefinition name report) [] v
  /-- Failed nodes are no concern of gates that wait. -/
  | markFailedFrontier (snapshot : Snapshot) : Turn v (.markFailedFrontier snapshot) [] v
  /-- Edits are no concern of gates that wait. -/
  | editGraph (change : Graph → Graph) : Turn v (.editGraph change) [] v
  /-- A snapshot comes too late. -/
  | stale (ticket : FetchTicket) (requestId : String) (snapshot : Snapshot) :
    Turn v (.applySnapshot ticket requestId snapshot) [] v
  /-- A snapshot of a finished run has no gates. -/
  | review (ticket : FetchTicket) (requestId : String) (snapshot : Snapshot)
      (mode : v.mode ≠ .live) :
    Turn v (.applySnapshot ticket requestId snapshot) [] { v with requestId := some requestId }
  /-- A snapshot reports the gate that waits. -/
  | wait (ticket : FetchTicket) (requestId : String) (snapshot : Snapshot) (r : ApprovalRequest)
      (mode : v.mode = .live) (waiting : v.approvals.outstanding = some r)
      (same : r.requestId = requestId) :
    Turn v (.applySnapshot ticket requestId snapshot) [] { v with requestId := some requestId }
  /-- A snapshot reports no gate, or one that was answered. -/
  | pass (ticket : FetchTicket) (requestId : String) (snapshot : Snapshot)
      (mode : v.mode = .live) (shown : v.state ≠ .idle) :
    Turn v (.applySnapshot ticket requestId snapshot) v.approvals.clear.events
      ⟨if v.approvals.outstanding.isSome then .polling else v.state, v.mode, some requestId,
        v.approvals.discard⟩
  /-- A snapshot reports a gate that neither waits nor was answered. -/
  | raise (ticket : FetchTicket) (requestId : String) (snapshot : Snapshot) (r : ApprovalRequest)
      (mode : v.mode = .live) (run : r.requestId = requestId)
      (other : v.approvals.outstanding.map ApprovalRequest.gate ≠ some r.gate)
      (fresh : r.gate ∉ v.approvals.resolved) :
    Turn v (.applySnapshot ticket requestId snapshot)
      (v.approvals.clear.events ++ [.approvalRequested r])
      ⟨.gateActive, v.mode, some requestId, { v.approvals with outstanding := some r }⟩
  /-- An answer to a run at none of whose gates the session waits. -/
  | refuse (requestId : String) (approved : Bool)
      (absent : ∀ r, v.approvals.outstanding = some r → r.requestId ≠ requestId) :
    Turn v (.completeApproval requestId approved) [] v
  /-- An answer to the gate that waits. -/
  | answer (approved : Bool) (r : ApprovalRequest) (waiting : v.approvals.outstanding = some r) :
    Turn v (.completeApproval r.requestId approved) [.approvalResolved r.requestId approved]
      { v with state := v.resumed, approvals := ⟨none, r.gate :: v.approvals.resolved⟩ }
  /-- No run was watched, so none is gone. -/
  | unwatched (none : v.requestId = none) : Turn v .clearInstance [] v
  /-- The run that was watched is gone, and a gate that waits is cleared. -/
  | gone (requestId : String) (watched : v.requestId = some requestId) :
    Turn v .clearInstance v.approvals.clear.events
      { v with state := v.resumed, requestId := none, approvals := v.approvals.discard }

end GateView

/-! ## What is said about gates -/

namespace Publishing

variable {α β : Type}

@[simp] theorem approvals_pure (a : α) : (pure a : Publishing α).approvals = [] := rfl

@[simp] theorem approvals_bind (p : Publishing α) (next : α → Publishing β) :
    (p >>= next).approvals = p.approvals ++ (next p.value).approvals := List.filter_append ..

@[simp] theorem approvals_map (f : α → β) (p : Publishing α) :
    (f <$> p).approvals = p.approvals :=
  congrArg (List.filter Event.isApproval) (events_map f p)

end Publishing

namespace Session

/-- What a session knows about its gates. -/
def gateView (s : Session) : GateView := ⟨s.state, s.mode, s.requestId, s.approvals⟩

@[simp] theorem approvals_transition (s : Session) (state : SessionState) :
    (s.transition state).approvals = [] := by
  unfold Publishing.approvals
  rw [events_transition]
  split <;> rfl

@[simp] theorem approvals_resume (s : Session) : s.resume.approvals = [] := by
  unfold resume
  split
  · exact approvals_transition s .polling
  · rfl

@[simp] theorem approvals_applyStatuses (s : Session) (requestId : String) (snapshot : Snapshot) :
    (s.applyStatuses requestId snapshot).approvals = [] := by
  unfold applyStatuses
  split <;> rfl

end Session

@[simp] theorem Approvals.approvals_clear (a : Approvals) :
    a.clear.approvals = a.clear.events := by
  unfold Publishing.approvals
  rw [events_clear]
  cases a.outstanding <;> rfl

namespace Session

theorem approvals_passGate (s : Session) : s.passGate.approvals = s.approvals.clear.events := by
  unfold passGate
  split
  · next h => simp [Approvals.events_clear, h]
  · simp

/-- When a gate is raised, the gate that waited is cleared and the other one
asked about. -/
theorem approvals_raiseGate (s : Session) (r : ApprovalRequest) :
    (s.raiseGate r).approvals = s.approvals.clear.events ++ [.approvalRequested r] := by
  have clear := Approvals.approvals_clear s.approvals
  have transition := approvals_transition s .gateActive
  unfold Publishing.approvals raiseGate at *
  rw [List.filter_append, List.filter_append, clear, transition, List.append_nil]
  rfl

/-! ## What an operation does -/

/-- **A snapshot that is looked at for gates** passes the one that waits, leaves
it waiting, or raises another one. -/
theorem detectGate_turn (s : Session) (ticket : FetchTicket) (requestId : String)
    (snapshot : Snapshot) (live : s.mode = .live) (shown : s.state ≠ .idle) :
    GateView.Turn s.gateView (.applySnapshot ticket requestId snapshot)
      ((s.marked requestId snapshot).detectGate requestId snapshot).approvals
      ((s.marked requestId snapshot).detectGate requestId snapshot).value.1.gateView := by
  rcases (s.marked requestId snapshot).detectGate_cases requestId snapshot with
    ⟨-, passed⟩ | ⟨nodeId, -, ⟨waiting, waits⟩ | ⟨other, fresh, raised⟩⟩
  · rw [passed, approvals_passGate, value_passGate]
    exact .pass ticket requestId snapshot live shown
  · obtain ⟨r, hr, hgate⟩ := Option.map_eq_some_iff.mp waiting
    rw [waits]
    exact .wait ticket requestId snapshot r live hr (congrArg Prod.fst hgate)
  · rw [raised, approvals_raiseGate]
    exact .raise ticket requestId snapshot (requestAt requestId nodeId snapshot) live rfl other
      fresh

/-- **What a snapshot does.** -/
theorem applySnapshot_turn (s : Session) (ticket : FetchTicket) (requestId : String)
    (snapshot : Snapshot) :
    GateView.Turn s.gateView (.applySnapshot ticket requestId snapshot)
      (s.applySnapshot ticket requestId snapshot).approvals
      (s.applySnapshot ticket requestId snapshot).value.1.gateView := by
  by_cases stale : ticket ≠ s.beginFetch ∨ s.state = .idle
  · rw [applySnapshot_of_stale stale]
    exact .stale ticket requestId snapshot
  have silent := approvals_applyStatuses (s.watch requestId) requestId snapshot
  cases hmode : s.mode with
  | live =>
    rw [applySnapshot_of_live stale hmode]
    have turn := detectGate_turn s ticket requestId snapshot hmode fun h => stale (Or.inr h)
    unfold Publishing.approvals at silent turn ⊢
    rw [List.filter_append, silent, List.nil_append]
    exact turn
  | historical runId =>
    rw [applySnapshot_of_historical stale hmode]
    unfold Publishing.approvals at silent ⊢
    rw [silent]
    exact .review ticket requestId snapshot (by simp [gateView, hmode])

/-- **What an answer does.** -/
theorem completeApproval_turn (s : Session) (requestId : String) (approved : Bool) :
    GateView.Turn s.gateView (.completeApproval requestId approved)
      (s.perform (.completeApproval requestId approved)).approvals
      (s.perform (.completeApproval requestId approved)).value.gateView := by
  rcases s.approvals.waits_or_absent requestId with ⟨r, waiting, rfl⟩ | absent
  · have silent := approvals_resume s
    unfold Publishing.approvals at *
    rw [perform_completeApproval_of_waiting approved waiting, List.filter_cons, silent]
    exact .answer approved r waiting
  · rw [perform_completeApproval_of_absent approved absent]
    exact .refuse requestId approved absent

/-- **What becomes of a session whose run is gone.** -/
theorem clearInstance_turn (s : Session) :
    GateView.Turn s.gateView .clearInstance s.clearInstance.approvals
      s.clearInstance.value.gateView := by
  cases watched : s.requestId with
  | none =>
    have unchanged : s.clearInstance = pure s := by
      unfold clearInstance
      rw [watched]
    rw [unchanged]
    exact .unwatched watched
  | some requestId =>
    have silent := approvals_resume s
    have clear := Approvals.approvals_clear s.approvals
    unfold Publishing.approvals at *
    rw [clearInstance_of_watched watched, List.filter_append, silent, clear, List.append_nil]
    exact .gone requestId watched

/-- **Every operation takes one of the turns**, and says about gates what that
turn says. -/
theorem perform_turn (s : Session) (op : Operation) :
    GateView.Turn s.gateView op (s.perform op).approvals (s.perform op).value.gateView := by
  cases op with
  | startPolling =>
    simp only [perform, startPolling, approvals_transition, value_transition]
    exact .startPolling
  | stopPolling =>
    simp only [perform, stopPolling, approvals_transition, value_transition]
    exact .stopPolling
  | dispose =>
    simp only [perform, dispose, approvals_transition, value_transition]
    exact .dispose
  | loadHistorical runId =>
    simp only [perform, loadHistorical, Publishing.approvals_bind, Publishing.value_bind,
      approvals_transition, value_transition, Approvals.approvals_clear, Approvals.value_clear,
      List.append_nil]
    exact .loadHistorical runId
  | loadDefinition name report => exact .loadDefinition name report
  | applySnapshot ticket requestId snapshot =>
    rw [perform, Publishing.approvals_map, Publishing.value_map]
    exact applySnapshot_turn s ticket requestId snapshot
  | markFailedFrontier snapshot =>
    rw [perform, Publishing.approvals_map, Publishing.value_map]
    unfold markFailedFrontier
    split
    · exact .markFailedFrontier snapshot
    · exact .markFailedFrontier snapshot
  | completeApproval requestId approved => exact completeApproval_turn s requestId approved
  | clearInstance => exact clearInstance_turn s
  | editGraph change => exact .editGraph change

end Session

end AgentWorkflow
