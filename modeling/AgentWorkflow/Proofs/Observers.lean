import AgentWorkflow.Proofs.GateCoherence

/-!
# What observers can know

Whoever is told every event of a session, and nothing else, knows where the
session stands and which gate waits. An `Observer` is what such a listener
makes of the events, and `Session.observers_know_state_and_gate` says that it
agrees with the session after every operation, and that no event ever surprises
it.

**What is not said.** Two operations drop a gate without a word about it:
watching anew, and forgetting everything. The observer learns of it all the
same, from the change of state, because it takes going to `polling` or `idle`
to mean that no gate waits. That this suffices is not a matter of what the
operations say but of where they can find the session. If a gate waited while
the session was polling, watching anew would drop it, change no state and say
nothing, and the observer would be left with a gate that is gone. No session
that operations lead to is like that (`GateView.Coherent`).
-/

namespace AgentWorkflow

/-- **What an observer knows of a session**, from its events alone. -/
structure Observer where
  /-- Where the session stands. -/
  state : SessionState
  /-- The gate that waits. -/
  approval : Option ApprovalRequest

namespace Observer

/-- An observer that was told nothing. -/
def start : Observer := ⟨.idle, none⟩

/-- What is left of a gate when the session goes to a state: in a session that
is polling or shows nothing, no gate waits. -/
def kept (state : SessionState) (approval : Option ApprovalRequest) : Option ApprovalRequest :=
  if state = .polling ∨ state = .idle then none else approval

/-- **What an observer makes of an event.** -/
def hear (o : Observer) : Event → Observer
  | .stateChanged _ current => ⟨current, kept current o.approval⟩
  | .approvalRequested r => { o with approval := some r }
  | .approvalResolved _ _ | .approvalCleared _ => { o with approval := none }
  | _ => o

/-- **The event fits what the observer knows.** A change of state leads away
from the state it knows, a gate is asked about when it knows of none, and what
is answered or cleared is a gate of the run whose gate it knows to wait. -/
def Expects (o : Observer) : Event → Prop
  | .stateChanged former current => former ≠ current ∧ former = o.state
  | .approvalRequested _ => o.approval = none
  | .approvalResolved requestId _ | .approvalCleared requestId =>
    o.approval.map ApprovalRequest.requestId = some requestId
  | _ => True

/-- **The observer follows the events**: each of them fits, and together they
lead it to what it knows in the end. -/
inductive Follows : Observer → List Event → Observer → Prop
  /-- No event, and nothing is learnt. -/
  | nil (o : Observer) : Follows o [] o
  /-- An event that fits, then the rest. -/
  | cons {o o' : Observer} {e : Event} {es : List Event} (expected : o.Expects e)
      (rest : Follows (o.hear e) es o') : Follows o (e :: es) o'

namespace Follows

variable {o o' o'' : Observer} {e : Event} {es es' : List Event}

theorem single (expected : o.Expects e) : Follows o [e] (o.hear e) := .cons expected (.nil _)

theorem append (first : Follows o es o') (second : Follows o' es' o'') :
    Follows o (es ++ es') o'' := by
  induction first with
  | nil => exact second
  | cons expected _ ih => exact .cons expected (ih second)

/-- What the observer knows in the end is what it makes of the events in
turn. -/
theorem foldl_eq (h : Follows o es o') : es.foldl hear o = o' := by
  induction h with
  | nil => rfl
  | cons _ _ ih => exact ih

theorem expects (h : Follows o es o') {u v : List Event} (split : es = u ++ e :: v) :
    (u.foldl hear o).Expects e := by
  induction h generalizing u with
  | nil => simp at split
  | cons expected _ ih =>
    cases u with
    | nil =>
      obtain ⟨rfl, -⟩ := List.cons.inj split
      exact expected
    | cons first u =>
      obtain ⟨rfl, rest⟩ := List.cons.inj split
      exact ih rest

end Follows

end Observer

open Observer (Follows)

theorem Approvals.follows_clear (a : Approvals) (state : SessionState) :
    Follows ⟨state, a.outstanding⟩ a.clear.events ⟨state, none⟩ := by
  rw [events_clear]
  cases a.outstanding with
  | none => exact .nil _
  | some r => exact .single rfl

namespace Session

variable {s : Session} {op : Operation}

/-- What there is to know of a session. -/
def known (s : Session) : Observer := ⟨s.state, s.approvals.outstanding⟩

/-! ## The steps of an operation -/

/-- **A transition is followed** by an observer that knows the state it leads
away from, whatever it takes for the gate that waits. If the session stays where
it is, that gate must be one that it may keep. -/
theorem follows_transition (s : Session) (state : SessionState) {o : Observer}
    (here : o.state = s.state)
    (settled : s.state = state → Observer.kept state o.approval = o.approval) :
    o.Follows (s.transition state).events ⟨state, Observer.kept state o.approval⟩ := by
  rw [events_transition]
  split
  · next same =>
    rw [settled same, ← same, ← here]
    exact .nil o
  · next changed => exact .single ⟨changed, here.symm⟩

theorem follows_transition_of_none (s : Session) (state : SessionState) :
    Follows ⟨s.state, none⟩ (s.transition state).events ⟨state, none⟩ := by
  have none : Observer.kept state none = none := ite_self _
  have follows := s.follows_transition state (o := ⟨s.state, .none⟩) rfl fun _ => none
  rwa [none] at follows

theorem follows_resume (s : Session) :
    Follows ⟨s.state, none⟩ s.resume.events ⟨s.gateView.resumed, none⟩ := by
  unfold resume GateView.resumed gateView
  by_cases gate : s.state = .gateActive
  · rw [if_pos gate, if_pos gate]
    exact s.follows_transition_of_none .polling
  · rw [if_neg gate, if_neg gate]
    exact .nil _

/-- Marking nodes says nothing that the observer makes anything of. -/
theorem follows_applyStatuses (s : Session) (requestId : String) (snapshot : Snapshot)
    (o : Observer) : Follows o (s.applyStatuses requestId snapshot).events o := by
  unfold applyStatuses
  split
  · exact .nil o
  · exact .single trivial

/-- **Passing a gate** is followed. -/
theorem follows_passGate (s : Session) :
    Follows s.known s.passGate.events s.passGate.value.1.known := by
  rw [value_passGate]
  unfold passGate known passed
  have clear := s.approvals.follows_clear s.state
  cases waiting : s.approvals.outstanding with
  | none => exact .nil _
  | some r =>
    rw [waiting] at clear
    have polling := (ungate { s with approvals := s.approvals.discard } r.nodeId)
      |>.follows_transition_of_none .polling
    simp only [Publishing.events_bind, Publishing.events_pure, List.append_nil,
      Approvals.value_clear]
    exact clear.append polling

/-- **Raising a gate** is followed: the one that waited is cleared before the
other one is asked about. -/
theorem follows_raiseGate (s : Session) (r : ApprovalRequest) :
    Follows s.known (s.raiseGate r).events (s.raiseGate r).value.1.known := by
  have asked : Follows ⟨s.state, none⟩ [.approvalRequested r] ⟨s.state, some r⟩ := .single rfl
  have active := s.follows_transition .gateActive (o := ⟨s.state, some r⟩) rfl fun _ => rfl
  exact ((s.approvals.follows_clear s.state).append asked).append active

/-- **Looking for gates** is followed. -/
theorem follows_detectGate (s : Session) (requestId : String) (snapshot : Snapshot) :
    Follows s.known (s.detectGate requestId snapshot).events
      (s.detectGate requestId snapshot).value.1.known := by
  rcases s.detectGate_cases requestId snapshot with
    ⟨-, passed⟩ | ⟨nodeId, -, ⟨-, waiting⟩ | ⟨-, -, raised⟩⟩
  · rw [passed]
    exact s.follows_passGate
  · rw [waiting]
    exact .nil _
  · rw [raised]
    exact s.follows_raiseGate _

/-- **Taking a snapshot over** is followed. -/
theorem follows_applySnapshot (s : Session) (ticket : FetchTicket) (requestId : String)
    (snapshot : Snapshot) :
    Follows s.known (s.applySnapshot ticket requestId snapshot).events
      (s.applySnapshot ticket requestId snapshot).value.1.known := by
  by_cases stale : ticket ≠ s.beginFetch ∨ s.state = .idle
  · rw [applySnapshot_of_stale stale]
    exact .nil _
  have marks := (s.watch requestId).follows_applyStatuses requestId snapshot s.known
  cases mode : s.mode with
  | live =>
    rw [applySnapshot_of_live stale mode]
    exact marks.append ((s.marked requestId snapshot).follows_detectGate requestId snapshot)
  | historical runId =>
    rw [applySnapshot_of_historical stale mode]
    exact marks

/-! ## Operations and runs -/

/-- **Every operation is followed** by an observer that knows the session, if
state, run and approval of the session agree. -/
theorem follows_perform (h : s.gateView.Coherent) (op : Operation) :
    Follows s.known (s.perform op).events (s.perform op).value.known := by
  cases op with
  | startPolling =>
    -- a session that is polling already changes no state, and has no gate to drop
    unfold perform startPolling
    rw [value_transition]
    exact follows_transition _ .polling rfl fun polling => (h.none_waits (Or.inl polling)).symm
  | stopPolling =>
    unfold perform stopPolling
    rw [value_transition]
    exact follows_transition _ .stopped rfl fun _ => rfl
  | dispose =>
    -- and one that shows nothing has none to forget
    unfold perform dispose
    rw [value_transition]
    exact follows_transition _ .idle rfl fun idle => (h.none_waits (Or.inr idle)).symm
  | loadHistorical runId =>
    unfold perform loadHistorical
    simp only [Publishing.events_bind, Publishing.value_bind, Approvals.value_clear,
      value_transition]
    exact (s.approvals.follows_clear s.state).append
      (follows_transition _ .stopped rfl fun _ => rfl)
  | loadDefinition name report => exact .single trivial
  | applySnapshot ticket requestId snapshot =>
    rw [perform, Publishing.events_map, Publishing.value_map]
    exact s.follows_applySnapshot ticket requestId snapshot
  | markFailedFrontier snapshot =>
    rw [perform, Publishing.events_map, Publishing.value_map]
    unfold markFailedFrontier
    split
    · exact .nil _
    · exact .single trivial
  | completeApproval requestId approved =>
    rcases s.approvals.waits_or_absent requestId with ⟨r, waiting, rfl⟩ | absent
    · rw [perform_completeApproval_of_waiting approved waiting]
      refine .cons ?_ s.follows_resume
      show s.approvals.outstanding.map ApprovalRequest.requestId = some r.requestId
      rw [waiting]
      rfl
    · rw [perform_completeApproval_of_absent approved absent]
      exact .nil _
  | clearInstance =>
    cases watched : s.requestId with
    | none =>
      unfold perform clearInstance
      rw [watched]
      exact .nil _
    | some requestId =>
      unfold perform
      rw [clearInstance_of_watched watched]
      exact (s.approvals.follows_clear s.state).append s.follows_resume
  | editGraph change => exact .nil _

/-- **Every run is followed.** -/
theorem follows_performAll (h : s.gateView.Coherent) (ops : List Operation) :
    Follows s.known (s.performAll ops).events (s.performAll ops).value.known := by
  unfold performAll
  induction ops generalizing s with
  | nil => exact .nil _
  | cons op ops ih =>
    rw [List.foldlM_cons, Publishing.events_bind, Publishing.value_bind]
    exact (follows_perform h op).append (ih (h.turn (s.perform_turn op)))

/-- **An observer knows where the session stands and which gate waits.** Told
every event of a run, and nothing else, it agrees with the session afterwards.
On the way no event surprises it: a change of state leads from the state it
knows to another one, a gate is asked about only when it knows of none, and what
is answered or cleared belongs to the run whose gate it knows to wait. -/
theorem observers_know_state_and_gate (gateType : String) (ops : List Operation) :
    let run := (initial gateType).performAll ops
    run.events.foldl Observer.hear .start = ⟨run.value.state, run.value.approvals.outstanding⟩
      ∧ ∀ u e v, run.events = u ++ e :: v → (u.foldl Observer.hear .start).Expects e := by
  intro run
  have follows : Follows .start run.events run.value.known :=
    follows_performAll (coherent_initial gateType) ops
  exact ⟨follows.foldl_eq, fun u e v split => follows.expects split⟩

/-- An observer that is told of a gate, whose session then stops and watches
anew. The gate is dropped without a word, and the change of state tells. -/
theorem observers_know_state_and_gate_at_gate :
    let run := (initial "GateNode").performAll (toGate ++ [.stopPolling, .startPolling])
    run.events.foldl Observer.hear .start = ⟨.polling, none⟩
      ∧ (run.events.take 6).foldl Observer.hear .start = ⟨.stopped, some ⟨"run", "gate", .null⟩⟩
      ∧ ((run.events.take 6).foldl Observer.hear .start).Expects
          (.stateChanged .stopped .polling) := by
  intro run
  obtain ⟨known, expected⟩ := observers_know_state_and_gate "GateNode"
    (toGate ++ [.stopPolling, .startPolling])
  exact ⟨known, rfl, expected (run.events.take 6) (.stateChanged .stopped .polling) [] rfl⟩

end Session

end AgentWorkflow
