import AgentWorkflow.AgentRuntime.InMemory
import AgentWorkflow.Proofs.GateHistory
import AgentWorkflow.Proofs.RecordedCalls

/-!
# No gate is released twice

A gate that was released cannot be held again, so the calls that release gates
are the one thing a monitor does that nobody can take back. They are made in
the outside world and the events are all that is known of them here. This
module says that the two agree: the calls that succeeded are, in order, the
approvals that were announced, and each of them released another gate.

**Why they agree.** An approval is recorded after the runtime has granted it,
and by then recording must not fail. It cannot, because it fails only if the
gate no longer waits, and nothing but the runtime was asked in between. A call
that fails leaves the gate waiting and may be made again; it is no approval.

**Why no gate comes twice.** One run may pass several gates under its one id,
so the ids alone may repeat. A gate is what waits when the call is made. Once
the call has succeeded the gate is settled, and what is settled does not wait
again until everything is forgotten.
-/

namespace AgentWorkflow

/-- The run whose gate the event says was approved. -/
def Event.approvedRun? : Event → Option String
  | .approvalResolved requestId true => some requestId
  | _ => none

theorem Event.approvedRun?_eq_none {e : Event}
    (other : ∀ requestId, e ≠ .approvalResolved requestId true) : e.approvedRun? = none := by
  unfold approvedRun?
  split
  · next requestId => exact absurd rfl (other requestId)
  · rfl

theorem Approvals.answered_notMem_clear (a : Approvals) (requestId : String) (approved : Bool) :
    .approvalResolved requestId approved ∉ a.clear.events := by
  rw [events_clear]
  cases a.outstanding <;> simp

/-- **Only an answer is announced as one.** -/
theorem GateView.Turn.of_answered {v v' : GateView} {op : Session.Operation} {said : List Event}
    {requestId : String} {approved : Bool} (t : Turn v op said v')
    (answered : .approvalResolved requestId approved ∈ said) :
    op = .completeApproval requestId approved := by
  have silent := v.approvals.answered_notMem_clear requestId approved
  cases t with
  | loadHistorical => exact absurd answered silent
  | pass => exact absurd answered silent
  | gone => exact absurd answered silent
  | raise =>
    rcases List.mem_append.mp answered with cleared | raised
    · exact absurd cleared silent
    · simp at raised
  | answer approved' r =>
    obtain ⟨rfl, rfl⟩ : requestId = r.requestId ∧ approved = approved' := by simpa using answered
    rfl
  | _ => simp at answered

theorem Session.approvedRun?_perform {op : Operation}
    (other : ∀ requestId, op ≠ .completeApproval requestId true) (s : Session) :
    ∀ e ∈ (s.perform op).events, e.approvedRun? = none := by
  intro e he
  refine Event.approvedRun?_eq_none fun requestId same => ?_
  subst same
  exact other requestId ((s.perform_turn op).of_answered (Publishing.mem_approvals.mpr ⟨he, rfl⟩))

namespace Monitor

variable {σ : Type} (rt : AgentRuntime σ)

/-! ## One operation -/

/-- **Whoever calls approves the gate that waits.** -/
theorem of_mem_called {w : Monitor × σ} {op : Operation} {c : Call} (made : c ∈ called rt w op) :
    op = .submitApproval c.requestId true
      ∧ ∃ r, w.1.session.approvals.outstanding = some r ∧ r.requestId = c.requestId := by
  by_cases approval : ∃ requestId, op = .submitApproval requestId true
  · obtain ⟨requestId, rfl⟩ := approval
    rcases w.1.session.approvals.waits_or_absent requestId with ⟨r, waiting, rfl⟩ | absent
    · rw [called_of_waiting rt waiting] at made
      obtain rfl := List.mem_singleton.mp made
      exact ⟨rfl, r, waiting, rfl⟩
    · rw [called_of_absent rt true absent] at made
      exact absurd made List.not_mem_nil
  · rw [called_of_ne rt w fun requestId same => approval ⟨requestId, same⟩] at made
    exact absurd made List.not_mem_nil

/-- The gates that an operation releases: for each of its calls that succeeded,
the gate that waited when the call was made. -/
def released (x : (Monitor × σ) × Operation) : List (String × String) :=
  ((calls rt x.1 [x.2]).filter Call.succeeded).flatMap fun _ =>
    (x.1.1.session.approvals.outstanding.map ApprovalRequest.gate).toList

/-- **What an operation releases**: nothing, which it announces by saying
nothing of the kind, or the gate that waits, which is announced and settled. -/
theorem released_cases (w : Monitor × σ) (op : Operation) :
    ((called rt w op).filter Call.succeeded = []
        ∧ (perform rt w op).events.filterMap Event.approvedRun? = [])
      ∨ ∃ r, w.1.session.approvals.outstanding = some r
        ∧ (called rt w op).filter Call.succeeded = [⟨r.requestId, true⟩]
        ∧ (perform rt w op).events.filterMap Event.approvedRun? = [r.requestId]
        ∧ (perform rt w op).value.1.session.gateView.Settled r.gate := by
  by_cases approval : ∃ requestId, op = .submitApproval requestId true
  · obtain ⟨requestId, rfl⟩ := approval
    rw [perform_submitApproval]
    rcases submitApproval_cases rt w.1 requestId true w.2 with
      ⟨absent, value⟩ | ⟨r, waiting, rfl,
        ⟨denied, -⟩ | ⟨e, -, answer, value⟩ | ⟨a, -, answer, value⟩⟩
    · rw [called_of_absent rt true absent, value]
      exact Or.inl ⟨rfl, rfl⟩
    · cases denied
    · rw [called_of_waiting rt waiting, answer, value]
      exact Or.inl ⟨rfl, rfl⟩
    · rw [called_of_waiting rt waiting, answer, value]
      have silent : w.1.session.resume.events.filterMap Event.approvedRun? = [] := by
        rw [Session.events_resume]
        split <;> rfl
      refine Or.inr ⟨r, waiting, rfl, ?_, .of_none rfl List.mem_cons_self⟩
      show r.requestId :: w.1.session.resume.events.filterMap Event.approvedRun? = _
      rw [silent]
  · rw [called_of_ne rt w fun requestId same => approval ⟨requestId, same⟩]
    refine Or.inl ⟨rfl, List.filterMap_eq_nil_iff.mpr fun e he => ?_⟩
    cases news : e.isConnection with
    | true => cases e <;> first | rfl | cases news
    | false =>
      refine (perform_leads rt w op).forall_said (P := fun e => e.approvedRun? = none) ?_ e he news
      intro o caused s
      refine s.approvedRun?_perform fun requestId same => ?_
      exact approval ⟨requestId, (same ▸ caused).eq_submitApproval⟩

/-- Each call that succeeds releases one gate of its run. -/
theorem map_fst_released (w : Monitor × σ) (op : Operation) :
    (released rt (w, op)).map Prod.fst
      = ((called rt w op).filter Call.succeeded).map Call.requestId := by
  unfold released
  rw [calls_singleton]
  rcases released_cases rt w op with ⟨none, -⟩ | ⟨r, waiting, one, -, -⟩
  · rw [none]
    rfl
  · rw [one, waiting]
    rfl

/-- What is released waited, and is settled afterwards. -/
theorem of_mem_released {w : Monitor × σ} {op : Operation} {gate : String × String}
    (h : gate ∈ released rt (w, op)) :
    w.1.session.WaitsAt gate ∧ released rt (w, op) = [gate]
      ∧ (perform rt w op).value.1.session.gateView.Settled gate := by
  have value : released rt (w, op) = ((called rt w op).filter Call.succeeded).flatMap fun _ =>
      (w.1.session.approvals.outstanding.map ApprovalRequest.gate).toList := by
    unfold released
    rw [calls_singleton]
  rcases released_cases rt w op with ⟨none, -⟩ | ⟨r, waiting, one, -, settled⟩
  · rw [value, none] at h
    exact absurd h List.not_mem_nil
  · have alone : released rt (w, op) = [r.gate] := by
      rw [value, one, waiting]
      rfl
    rw [alone] at h ⊢
    obtain rfl : gate = r.gate := List.mem_singleton.mp h
    exact ⟨congrArg (Option.map ApprovalRequest.gate) waiting, rfl, settled⟩

/-! ## Whole runs -/

/-- The gates that a run releases, in order. -/
def releasedGates (w : Monitor × σ) (ops : List Operation) : List (String × String) :=
  (steps rt w ops).flatMap (released rt)

/-- Nothing releases a gate that is settled. -/
theorem notMem_releasedGates_of_settled {w : Monitor × σ} {ops : List Operation}
    {gate : String × String} (h : w.1.session.gateView.Settled gate) (kept : .dispose ∉ ops) :
    gate ∉ releasedGates rt w ops := by
  unfold releasedGates
  induction ops generalizing w with
  | nil => exact List.not_mem_nil
  | cons op ops ih =>
    rw [steps, List.flatMap_cons, List.mem_append]
    rintro (first | later)
    · exact h.absent (of_mem_released rt first).1
    · have after : (perform rt w op).value.1.session.gateView.Settled gate := by
        refine (perform_leads rt w op).keeps (P := fun s => s.gateView.Settled gate) ?_ h
        intro o caused s hs
        refine hs.turn (s.perform_turn o) fun forgets => kept ?_
        subst forgets
        rw [caused.eq_dispose]
        exact List.mem_cons_self
      exact ih after (fun mem => kept (List.mem_cons_of_mem op mem)) later

theorem nodup_releasedGates {w : Monitor × σ} {ops : List Operation} (kept : .dispose ∉ ops) :
    (releasedGates rt w ops).Nodup := by
  induction ops generalizing w with
  | nil => exact List.nodup_nil
  | cons op ops ih =>
    have kept' : .dispose ∉ ops := fun mem => kept (List.mem_cons_of_mem op mem)
    show (released rt (w, op) ++ releasedGates rt (perform rt w op).value ops).Nodup
    cases first : released rt (w, op) with
    | nil => exact ih kept'
    | cons gate more =>
      obtain ⟨-, one, settled⟩ := of_mem_released rt (first ▸ List.mem_cons_self)
      rw [← first, one]
      -- it is settled from here on, so what comes later does not release it
      exact List.nodup_cons.mpr ⟨notMem_releasedGates_of_settled rt settled kept', ih kept'⟩

theorem map_fst_releasedGates (w : Monitor × σ) (ops : List Operation) :
    (releasedGates rt w ops).map Prod.fst
      = ((calls rt w ops).filter Call.succeeded).map Call.requestId := by
  rw [calls_eq_flatMap, releasedGates, List.map_flatMap, List.filter_flatMap, List.map_flatMap]
  exact congrArg (fun f => (steps rt w ops).flatMap f)
    (funext fun x => map_fst_released rt x.1 x.2)

/-- The calls that succeeded are the approvals that were announced. -/
theorem succeeded_eq_announced (w : Monitor × σ) (ops : List Operation) :
    ((calls rt w ops).filter Call.succeeded).map Call.requestId
      = (performAll rt w ops).events.filterMap Event.approvedRun? := by
  rw [calls_eq_flatMap]
  unfold performAll
  induction ops generalizing w with
  | nil => rfl
  | cons op ops ih =>
    rw [steps, List.flatMap_cons, List.filter_append, List.map_append, ih, List.foldlM_cons,
      Publishing.events_bind, List.filterMap_append]
    refine congrArg (· ++ _) ?_
    rcases released_cases rt w op with ⟨none, silent⟩ | ⟨r, -, one, announced, -⟩
    · rw [none, silent]
      rfl
    · rw [one, announced]
      rfl

/-- **No gate is released twice.** Beside a record of the calls a run is the run
it is without one. The calls that succeeded are the approvals that are
announced, in order. Only an approval of the gate that waits makes a call. Each
call that succeeds releases one gate of its run, and these are all different
unless everything is forgotten in between. -/
theorem no_gate_is_released_twice (w : Monitor × σ) (ops : List Operation) :
    performAll rt.recorded (w.1, w.2, []) ops
        = ⟨((performAll rt w ops).value.1, (performAll rt w ops).value.2, calls rt w ops),
            (performAll rt w ops).events⟩
      ∧ ((calls rt w ops).filter Call.succeeded).map Call.requestId
        = (performAll rt w ops).events.filterMap Event.approvedRun?
      ∧ calls rt w ops = ((steps rt w ops).flatMap fun x => calls rt x.1 [x.2])
      ∧ (∀ x ∈ steps rt w ops, ∀ c ∈ calls rt x.1 [x.2],
          x.2 = .submitApproval c.requestId true
            ∧ ∃ r, x.1.1.session.approvals.outstanding = some r ∧ r.requestId = c.requestId)
      ∧ (releasedGates rt w ops).map Prod.fst
        = ((calls rt w ops).filter Call.succeeded).map Call.requestId
      ∧ (.dispose ∉ ops → (releasedGates rt w ops).Nodup) := by
  refine ⟨performAll_recorded rt w ops, succeeded_eq_announced rt w ops, ?_, ?_,
    map_fst_releasedGates rt w ops, nodup_releasedGates rt⟩
  · rw [calls_eq_flatMap]
    exact congrArg (fun f => (steps rt w ops).flatMap f)
      (funext fun x => (calls_singleton rt x.1 x.2).symm)
  · intro x _ c made
    rw [calls_singleton] at made
    exact of_mem_called rt made

/-- A monitor that stands at a gate. -/
def atGate : Monitor :=
  { ofConfig {} with session := ((Session.initial "GateNode").performAll Session.toGate).value }

/-- A gate that is approved twice, and once under the id of another run. -/
theorem no_gate_is_released_twice_at_gate :
    let ops : List Operation := [.submitApproval "other" true, .submitApproval "run" true, .stop,
      .start, .submitApproval "run" true]
    .dispose ∉ ops ∧ releasedGates InMemory.runtime (atGate, {}) ops = [("run", "gate")]
      ∧ (releasedGates InMemory.runtime (atGate, {}) ops).Nodup := by
  intro ops
  have kept : .dispose ∉ ops := by simp [ops]
  refine ⟨kept, by decide +kernel, ?_⟩
  exact (no_gate_is_released_twice InMemory.runtime (atGate, {}) ops).2.2.2.2.2 kept

end Monitor

end AgentWorkflow
