import AgentWorkflow.Proofs.GateHistory
import AgentWorkflow.Proofs.MonitorRuns

/-!
# Which gates were answered

A session keeps a list of the gates that were answered and asks about none of
them again. What the list stands for is a fact about the past: some answer was
accepted while the gate waited, and nothing was forgotten since. For a monitor
that is told one thing after the other, `Monitor.mem_resolved_iff_answered`
says that the list holds exactly the gates of which this is true.

It follows from what one operation does to the list
(`Monitor.mem_resolved_perform_iff`). An answer that is accepted adds the gate
that waits, forgetting empties the list, and nothing else touches it: a monitor
does to its session what its operation causes, and only two kinds of turns
change the list.
-/

namespace AgentWorkflow

/-- Only answers and forgetting change which gates were answered. -/
theorem GateView.Turn.resolved_eq {v v' : GateView} {op : Session.Operation} {said : List Event}
    (t : Turn v op said v') (kept : op ≠ .dispose)
    (unanswered : ∀ requestId approved, op ≠ .completeApproval requestId approved) :
    v'.approvals.resolved = v.approvals.resolved := by
  cases t with
  | dispose => exact absurd rfl kept
  | answer => exact absurd rfl (unanswered _ _)
  | _ => rfl

namespace Monitor

variable {σ : Type}

/-- **The operator answers a gate**: it waits, and the answer is accepted. -/
def Answers (rt : AgentRuntime σ) (w : Monitor × σ) (op : Operation) (gate : String × String) :
    Prop :=
  ∃ requestId approved said, op = .submitApproval requestId approved ∧ w.1.session.WaitsAt gate
    ∧ (submitApproval rt w.1 requestId approved w.2).value.1.2 = .ok said

/-- **A gate was answered** in the course of a run, and nothing was forgotten
since. -/
def Answered (rt : AgentRuntime σ) (w : Monitor × σ) (ops : List Operation)
    (gate : String × String) : Prop :=
  ∃ u op v, ops = u ++ op :: v ∧ Answers rt (performAll rt w u).value op gate
    ∧ ∀ later ∈ v, later ≠ .dispose

theorem mem_resolved_perform_iff (rt : AgentRuntime σ) (w : Monitor × σ) (op : Operation)
    (gate : String × String) :
    gate ∈ (perform rt w op).value.1.session.approvals.resolved
      ↔ Answers rt w op gate ∨ gate ∈ w.1.session.approvals.resolved ∧ op ≠ .dispose := by
  by_cases forgets : op = .dispose
  · subst forgets
    have none : (perform rt w .dispose).value.1.session.approvals.resolved = [] := by
      show w.1.session.dispose.value.approvals.resolved = []
      unfold Session.dispose
      rw [Session.value_transition]
    rw [none]
    refine ⟨nofun, ?_⟩
    rintro (⟨_, _, _, h, _⟩ | ⟨_, h⟩)
    · cases h
    · exact absurd rfl h
  by_cases answer : ∃ requestId approved, op = .submitApproval requestId approved
  · obtain ⟨requestId, approved, rfl⟩ := answer
    have answers_iff : Answers rt w (.submitApproval requestId approved) gate
        ↔ w.1.session.WaitsAt gate
          ∧ ∃ said, (submitApproval rt w.1 requestId approved w.2).value.1.2 = .ok said := by
      constructor
      · rintro ⟨_, _, said, ⟨⟩, waits, ok⟩
        exact ⟨waits, said, ok⟩
      · rintro ⟨waits, said, ok⟩
        exact ⟨_, _, said, rfl, waits, ok⟩
    have after : (perform rt w (.submitApproval requestId approved)).value.1
        = (submitApproval rt w.1 requestId approved w.2).value.1.1 := rfl
    have waits_iff {r : ApprovalRequest}
        (waiting : w.1.session.approvals.outstanding = some r) :
        w.1.session.WaitsAt gate ↔ gate = r.gate := by
      unfold Session.WaitsAt
      rw [waiting]
      exact ⟨fun h => (Option.some.inj h).symm, fun h => congrArg some h.symm⟩
    rw [answers_iff, after]
    rcases submitApproval_cases rt w.1 requestId approved w.2 with
      ⟨-, absent⟩ | ⟨r, waiting, rfl, ⟨rfl, denied⟩ | ⟨e, rfl, -, refused⟩ | ⟨a, rfl, -, granted⟩⟩
    · rw [absent]
      simp [forgets]
    · rw [denied, waits_iff waiting]
      show gate ∈ r.gate :: w.1.session.approvals.resolved ↔ _
      simp [forgets]
    · rw [refused]
      simp [forgets]
    · rw [granted, waits_iff waiting]
      show gate ∈ r.gate :: w.1.session.approvals.resolved ↔ _
      simp [forgets]
  · have same : (perform rt w op).value.1.session.approvals.resolved
        = w.1.session.approvals.resolved := by
      refine (perform_leads rt w op).keeps
        (P := fun s => s.approvals.resolved = w.1.session.approvals.resolved) ?_ rfl
      intro o caused s hs
      refine ((s.perform_turn o).resolved_eq ?_ ?_).trans hs
      · rintro rfl
        exact forgets caused.eq_dispose
      · rintro requestId approved rfl
        exact answer ⟨requestId, approved, caused.eq_submitApproval⟩
    have not_answers : ¬Answers rt w op gate := by
      rintro ⟨requestId, approved, _, h, _⟩
      exact answer ⟨requestId, approved, h⟩
    rw [same]
    simp [not_answers, forgets]

/-- **The list of answered gates holds what was answered** since everything was
last forgotten. -/
theorem mem_resolved_iff_answered (rt : AgentRuntime σ) {w : Monitor × σ}
    (fresh : w.1.session.approvals.resolved = []) (ops : List Operation) (gate : String × String) :
    gate ∈ (performAll rt w ops).value.1.session.approvals.resolved
      ↔ Answered rt w ops gate := by
  have run := Publishing.foldlM_iff_of_step (f := perform rt)
    (P := fun w => gate ∈ w.1.session.approvals.resolved)
    (fun w op => mem_resolved_perform_iff rt w op gate) ops w
  refine run.trans ?_
  rw [fresh]
  simp only [List.not_mem_nil, false_and, or_false]
  exact Iff.rfl

end Monitor

end AgentWorkflow
