import AgentWorkflow.Proofs.GateView

/-!
# What happens to a gate over time

A gate that waits can stop waiting in four ways. The operator answers it; the
run moves on and it is cleared; watching begins anew and it is dropped without
a word; everything is forgotten. Only the first is recorded, and what is
recorded is never asked about again. After each of the others the session may
ask about the same gate a second time, and after nothing else.

Both are facts about runs of any length, so both need something that every
turn keeps. For the first it is `GateView.Settled`: the gate was answered and
does not wait. Its two halves carry each other. A gate that waits would be
found to wait before anybody looks whether it was answered, so the answer alone
does not keep it from coming back; and not waiting would not last without the
answer. For the second it is that the very request still waits, until it is
settled.
-/

namespace AgentWorkflow

/-- Whether an event asks the operator about a gate. -/
def Event.isRequest : Event → Bool
  | .approvalRequested _ => true
  | _ => false

theorem Publishing.mem_approvals {α : Type} {p : Publishing α} {e : Event} :
    e ∈ p.approvals ↔ e ∈ p.events ∧ e.isApproval = true :=
  List.mem_filter

theorem Publishing.countP_isRequest_approvals {α : Type} (p : Publishing α) :
    p.approvals.countP Event.isRequest = p.events.countP Event.isRequest := by
  unfold approvals
  rw [List.countP_filter]
  refine List.countP_congr fun e _ => ?_
  cases e <;> simp [Event.isRequest, Event.isApproval]

theorem Approvals.requested_notMem_clear (a : Approvals) (r : ApprovalRequest) :
    .approvalRequested r ∉ a.clear.events := by
  rw [events_clear]
  cases a.outstanding <;> simp

namespace GateView

variable {v v' : GateView} {op : Session.Operation} {said : List Event}

/-- **The gate is settled**: it was answered, and it does not wait. -/
structure Settled (v : GateView) (gate : String × String) : Prop where
  /-- It was answered. -/
  answered : gate ∈ v.approvals.resolved
  /-- It does not wait. -/
  absent : v.approvals.outstanding.map ApprovalRequest.gate ≠ some gate

/-- **What is asked about waits from then on**, and neither waited before nor
was answered. -/
theorem Turn.of_requested {r : ApprovalRequest} (t : Turn v op said v')
    (asked : .approvalRequested r ∈ said) :
    v'.approvals.outstanding = some r ∧ r.gate ∉ v.approvals.resolved
      ∧ v.approvals.outstanding.map ApprovalRequest.gate ≠ some r.gate := by
  cases t with
  | loadHistorical => exact absurd asked (v.approvals.requested_notMem_clear r)
  | pass => exact absurd asked (v.approvals.requested_notMem_clear r)
  | gone => exact absurd asked (v.approvals.requested_notMem_clear r)
  | raise _ _ _ q _ _ other fresh =>
    rcases List.mem_append.mp asked with asked | asked
    · exact absurd asked (v.approvals.requested_notMem_clear r)
    · obtain rfl : r = q := by simpa using asked
      exact ⟨rfl, fresh, other⟩
  | _ => simp at asked

/-- **A turn asks at most once.** -/
theorem Turn.countP_isRequest_le (t : Turn v op said v') : said.countP Event.isRequest ≤ 1 := by
  have clear : v.approvals.clear.events.countP Event.isRequest = 0 := by
    rw [Approvals.events_clear]
    cases v.approvals.outstanding <;> rfl
  cases t with
  | raise => rw [List.countP_append, clear]; exact Nat.le_refl 1
  | loadHistorical => rw [clear]; exact Nat.zero_le 1
  | pass => rw [clear]; exact Nat.zero_le 1
  | gone => rw [clear]; exact Nat.zero_le 1
  | _ => exact Nat.zero_le 1

/-- A view in which no gate waits has settled the gates that were answered. -/
theorem Settled.of_none {gate : String × String} (none : v.approvals.outstanding = none)
    (answered : gate ∈ v.approvals.resolved) : v.Settled gate :=
  ⟨answered, by rw [none]; nofun⟩

/-- **What is settled stays so** until everything is forgotten. -/
theorem Settled.turn {gate : String × String} (h : v.Settled gate) (t : Turn v op said v')
    (kept : op ≠ .dispose) : v'.Settled gate := by
  cases t with
  | startPolling => exact .of_none rfl h.answered
  | stopPolling => exact ⟨h.answered, h.absent⟩
  | dispose => exact absurd rfl kept
  | loadHistorical => exact .of_none rfl h.answered
  | loadDefinition => exact h
  | markFailedFrontier => exact h
  | editGraph => exact h
  | stale => exact h
  | review => exact ⟨h.answered, h.absent⟩
  | wait => exact ⟨h.answered, h.absent⟩
  | pass => exact .of_none rfl h.answered
  | raise _ _ _ r _ _ _ fresh =>
    refine ⟨h.answered, fun same => fresh ?_⟩
    rw [Option.some.inj same]
    exact h.answered
  | refuse => exact h
  | answer => exact .of_none rfl (List.mem_cons_of_mem _ h.answered)
  | unwatched => exact h
  | gone => exact .of_none rfl h.answered

/-- **A gate that waits goes on waiting or is settled**, unless it is dropped,
forgotten or cleared. -/
theorem Turn.of_waiting {r : ApprovalRequest} (t : Turn v op said v')
    (waiting : v.approvals.outstanding = some r) :
    op = .startPolling ∨ op = .dispose ∨ .approvalCleared r.requestId ∈ said
      ∨ v'.approvals.outstanding = some r ∨ v'.Settled r.gate := by
  have clear : .approvalCleared r.requestId ∈ v.approvals.clear.events := by
    rw [Approvals.events_clear, waiting]
    exact List.mem_singleton_self _
  cases t with
  | startPolling => exact Or.inl rfl
  | dispose => exact Or.inr (Or.inl rfl)
  | loadHistorical => exact Or.inr (Or.inr (Or.inl clear))
  | pass => exact Or.inr (Or.inr (Or.inl clear))
  | gone => exact Or.inr (Or.inr (Or.inl clear))
  | raise => exact Or.inr (Or.inr (Or.inl (List.mem_append_left _ clear)))
  | answer _ q hq =>
    obtain rfl : r = q := Option.some.inj (waiting.symm.trans hq)
    exact Or.inr (Or.inr (Or.inr (Or.inr (.of_none rfl List.mem_cons_self))))
  | _ => exact Or.inr (Or.inr (Or.inr (Or.inl waiting)))

end GateView

namespace Session

/-- The session asks about a gate in the course of an operation. -/
def Asks (s : Session) (op : Operation) (gate : String × String) : Prop :=
  ∃ r : ApprovalRequest, r.gate = gate ∧ .approvalRequested r ∈ (s.perform op).events

/-- A gate waits. -/
def WaitsAt (s : Session) (gate : String × String) : Prop :=
  s.approvals.outstanding.map ApprovalRequest.gate = some gate

/-- **The operation takes a gate back** that nobody has answered: watching
begins anew, everything is forgotten, or the gate waits and is cleared. -/
def Withdraws (s : Session) (op : Operation) (gate : String × String) : Prop :=
  op = .startPolling ∨ op = .dispose
    ∨ s.WaitsAt gate ∧ .approvalCleared gate.1 ∈ (s.perform op).events

instance (s : Session) (op : Operation) (gate : String × String) : Decidable (s.Asks op gate) :=
  decidable_of_iff
    ((s.perform op).events.any fun
      | .approvalRequested r => r.gate = gate
      | _ => false) <| by
    rw [List.any_eq_true]
    constructor
    · rintro ⟨e, he, asks⟩
      cases e with
      | approvalRequested r => exact ⟨r, of_decide_eq_true asks, he⟩
      | _ => cases asks
    · rintro ⟨r, rfl, asked⟩
      exact ⟨.approvalRequested r, asked, decide_eq_true rfl⟩

variable {s : Session} {op : Operation} {gate : String × String}

/-- What is asked about neither waited nor was answered. -/
theorem Asks.fresh (h : s.Asks op gate) :
    gate ∉ s.approvals.resolved ∧ ¬s.WaitsAt gate := by
  obtain ⟨r, rfl, asked⟩ := h
  exact ((s.perform_turn op).of_requested (Publishing.mem_approvals.mpr ⟨asked, rfl⟩)).2

/-- What is asked about waits afterwards. -/
theorem Asks.waits (h : s.Asks op gate) :
    ∃ r, r.gate = gate ∧ (s.perform op).value.approvals.outstanding = some r := by
  obtain ⟨r, rfl, asked⟩ := h
  exact ⟨r, rfl, ((s.perform_turn op).of_requested (Publishing.mem_approvals.mpr ⟨asked, rfl⟩)).1⟩

theorem not_asks_of_settled (h : s.gateView.Settled gate) : ¬s.Asks op gate :=
  fun asked => asked.fresh.1 h.answered

/-- **An answer settles the gate that waited.** -/
theorem settled_of_answer {requestId : String} {approved : Bool}
    {completed : Publishing (Session × ApprovalRequest)} (waits : s.WaitsAt gate)
    (accepted : s.completeApproval requestId approved = .ok completed) :
    (s.perform (.completeApproval requestId approved)).value.gateView.Settled gate := by
  obtain ⟨r, waiting, rfl⟩ := completeApproval_isOk_iff.mp ⟨completed, accepted⟩
  obtain rfl : r.gate = gate := by
    unfold WaitsAt at waits
    rw [waiting] at waits
    exact Option.some.inj waits
  rw [perform_completeApproval_of_waiting approved waiting]
  exact .of_none rfl List.mem_cons_self

/-- What is settled stays so in every run that does not forget everything. -/
theorem settled_performAll {ops : List Operation} (h : s.gateView.Settled gate)
    (kept : .dispose ∉ ops) : (s.performAll ops).value.gateView.Settled gate := by
  have step : ∀ op ∈ ops, ∀ s : Session, s.gateView.Settled gate →
      (s.perform op).value.gateView.Settled gate :=
    fun op hop s h => h.turn (s.perform_turn op) fun forgets => kept (forgets ▸ hop)
  exact Publishing.foldlM_preserves_of_mem step h

/-- A gate that waits goes on waiting or is settled by an operation that does
not take it back. -/
theorem waits_or_settled_of_not_withdraws {r : ApprovalRequest} (kept : ¬s.Withdraws op r.gate)
    (h : s.approvals.outstanding = some r ∨ s.gateView.Settled r.gate) :
    (s.perform op).value.approvals.outstanding = some r
      ∨ (s.perform op).value.gateView.Settled r.gate := by
  have turn := s.perform_turn op
  rcases h with waiting | settled
  · rcases turn.of_waiting waiting with start | forgets | cleared | after
    · exact absurd (Or.inl start) kept
    · exact absurd (Or.inr (Or.inl forgets)) kept
    · have waits : s.WaitsAt r.gate := congrArg (Option.map ApprovalRequest.gate) waiting
      exact absurd (Or.inr (Or.inr ⟨waits, (Publishing.mem_approvals.mp cleared).1⟩)) kept
    · exact after
  · exact Or.inr (settled.turn turn fun forgets => kept (Or.inr (Or.inl forgets)))

/-- **A gate is asked about again only if it was taken back.** -/
theorem exists_withdraws_of_asks_again {u : List Operation} {again : Operation}
    (first : s.Asks op gate)
    (second : ((s.perform op).value.performAll u).value.Asks again gate) :
    ∃ v z w, u = v ++ z :: w ∧ ((s.perform op).value.performAll v).value.Withdraws z gate := by
  refine Classical.byContradiction fun none => ?_
  obtain ⟨r, rfl, waiting⟩ := first.waits
  have kept : ∀ v z w, u = v ++ z :: w →
      ¬((s.perform op).value.performAll v).value.Withdraws z r.gate :=
    fun v z w hu back => none ⟨v, z, w, hu, back⟩
  have step : ∀ (t : Session) (z : Operation), ¬t.Withdraws z r.gate →
      t.approvals.outstanding = some r ∨ t.gateView.Settled r.gate →
      (t.perform z).value.approvals.outstanding = some r
        ∨ (t.perform z).value.gateView.Settled r.gate :=
    fun _ _ => waits_or_settled_of_not_withdraws
  -- while nobody takes the gate back it waits or is settled, and in neither case is it asked about
  have after := Publishing.foldlM_preserves step u _ kept (Or.inl waiting)
  rcases after with still | settled
  · exact second.fresh.2 (congrArg (Option.map ApprovalRequest.gate) still)
  · exact not_asks_of_settled settled second

/-- **What the operator has answered is never asked about again**, until
everything is forgotten; and a gate is asked about twice only if it was taken
back in between. One operation asks at most once. -/
theorem answered_gates_do_not_return (s : Session) (op : Operation) (ops : List Operation)
    (gate : String × String) :
    (∀ requestId approved completed, op = .completeApproval requestId approved →
        s.completeApproval requestId approved = .ok completed → s.WaitsAt gate →
        .dispose ∉ ops →
      ¬((s.perform op).value.performAll ops).value.WaitsAt gate
        ∧ ∀ u later v, ops = u ++ later :: v →
            ¬((s.perform op).value.performAll u).value.Asks later gate)
      ∧ (s.perform op).events.countP Event.isRequest ≤ 1
      ∧ (s.Asks op gate → ∀ u again v, ops = u ++ again :: v →
          ((s.perform op).value.performAll u).value.Asks again gate →
        ∃ u₁ z u₂, u = u₁ ++ z :: u₂
          ∧ ((s.perform op).value.performAll u₁).value.Withdraws z gate) := by
  refine ⟨?_, ?_, ?_⟩
  · rintro requestId approved completed rfl accepted waits kept
    have settled := settled_of_answer waits accepted
    refine ⟨(settled_performAll settled kept).absent, ?_⟩
    rintro u later v rfl
    have before : .dispose ∉ u := fun h => kept (List.mem_append_left _ h)
    exact not_asks_of_settled (settled_performAll settled before)
  · rw [← Publishing.countP_isRequest_approvals]
    exact (s.perform_turn op).countP_isRequest_le
  · rintro first u again v rfl second
    exact exists_withdraws_of_asks_again first second

/-- A run that is answered, left and watched again, with the gate reported all
the while; and one that leaves its gate and comes back to it. -/
theorem answered_gates_do_not_return_at_gate :
    (let s := ((initial "GateNode").performAll toGate).value
      let answer : Operation := .completeApproval "run" true
      let ops := [.stopPolling, .startPolling, .applySnapshot ⟨3, .live⟩ "run" .atGate]
      s.WaitsAt ("run", "gate")
        ∧ ¬((s.perform answer).value.performAll ops).value.WaitsAt ("run", "gate"))
      ∧ let s := ((initial "GateNode").performAll (toGate.take 2)).value
        let arrive : Operation := .applySnapshot ⟨1, .live⟩ "run" .atGate
        s.Asks arrive ("run", "gate") ∧ ∃ v z w, [.clearInstance] = v ++ z :: w
          ∧ ((s.perform arrive).value.performAll v).value.Withdraws z ("run", "gate") := by
  refine ⟨?_, ?_⟩
  · intro s answer ops
    have waiting : s.approvals.outstanding = some ⟨"run", "gate", .null⟩ := rfl
    have waits : s.WaitsAt ("run", "gate") := congrArg (Option.map ApprovalRequest.gate) waiting
    exact ⟨waits, ((answered_gates_do_not_return s answer ops ("run", "gate")).1 "run" true _ rfl
      (completeApproval_of_waiting true waiting) waits (by simp [ops])).1⟩
  · intro s arrive
    have first : s.Asks arrive ("run", "gate") := by decide +kernel
    have second : ((s.perform arrive).value.performAll [.clearInstance]).value.Asks arrive
        ("run", "gate") := by decide +kernel
    exact ⟨first, (answered_gates_do_not_return s arrive [.clearInstance, arrive]
      ("run", "gate")).2.2 first [.clearInstance] arrive [] rfl second⟩

end Session

end AgentWorkflow
