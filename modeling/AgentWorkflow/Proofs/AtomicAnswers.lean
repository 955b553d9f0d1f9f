import AgentWorkflow.Proofs.GateRelease

/-!
# An answer counts altogether, or not at all

To answer a gate is to do two things in two places: the runtime releases the gate, and the
session records that it did. If only one of them happened, either a run would go on while
its gate is still shown as waiting, or a gate would be crossed off while its run is held.

The session is looked at before the runtime is asked and changed afterwards, and the second
time it is what it was the first time, whatever the runtime did in between. So the gate is
still there to be recorded once the runtime has released it. What happened to the monitor
before is of no concern: it may have been stopped in front of the gate, or have loaded
another graph, which may not even have a node for it
(`Monitor.answers_are_all_or_nothing`).

**What the runtime is asked** is written down by `AgentRuntime.overheard`, for questions of
every kind. That an answer asks nothing at all could not be told from a record of gates.
-/

namespace AgentWorkflow

/-- **What a runtime can be asked.** -/
inductive Question where
  /-- For a definition. -/
  | definition (name : String)
  /-- For the live runs. -/
  | live
  /-- For the latest finished runs. -/
  | history (limit : Nat)
  /-- For a finished run. -/
  | finished (runId : String)
  /-- To store a definition. -/
  | storage (name : String) (definition : Definition)
  /-- To release the gate that holds a run. -/
  | release (requestId : String)

variable {σ : Type}

/-- A question that is overheard is written down, and answered as it would be. -/
def Question.overheard {α : Type} (q : Question) (ask : σ → α × σ) (t : σ × List Question) :
    α × (σ × List Question) :=
  ((ask t.1).1, (ask t.1).2, t.2 ++ [q])

/-- **A runtime that is overheard**: all that it is asked is written down, the earliest
question first. -/
def AgentRuntime.overheard (rt : AgentRuntime σ) : AgentRuntime (σ × List Question) where
  fetchDefinition name := (Question.definition name).overheard (rt.fetchDefinition name)
  fetchActive := Question.live.overheard rt.fetchActive
  fetchHistory limit := (Question.history limit).overheard (rt.fetchHistory limit)
  fetchRun runId := (Question.finished runId).overheard (rt.fetchRun runId)
  saveDefinition name definition :=
    (Question.storage name definition).overheard (rt.saveDefinition name definition)
  approveGate requestId := (Question.release requestId).overheard (rt.approveGate requestId)

namespace Monitor

variable {rt : AgentRuntime σ} {m : Monitor} {requestId : String} {approved : Bool} {s : σ}

/-! ## What is overheard -/

/-- Whatever is asked, it is answered as if nobody listened. -/
theorem overheard_alike {α : Type} (q : Question) (ask : σ → α × σ) :
    AnsweredAlike (fun (t : σ × List Question) s => t.1 = s) (q.overheard ask) ask := by
  rintro ⟨s, log⟩ _ rfl
  exact ⟨rfl, rfl⟩

/-- **What the runtime is asked about an answer.** -/
def questions (rt : AgentRuntime σ) (m : Monitor) (requestId : String) (approved : Bool) (s : σ) :
    List Question :=
  (submitApproval rt.overheard m requestId approved (s, [])).value.2.2

theorem submitApproval_overheard (rt : AgentRuntime σ) (m : Monitor) (requestId : String)
    (approved : Bool) (s : σ) :
    submitApproval rt.overheard m requestId approved (s, [])
      = ⟨((submitApproval rt m requestId approved s).value.1,
            (submitApproval rt m requestId approved s).value.2,
            questions rt m requestId approved s),
          (submitApproval rt m requestId approved s).events⟩ := by
  have gate : AnsweredAlike (fun (t : σ × List Question) s => t.1 = s)
      (rt.overheard.approveGate requestId) (rt.approveGate requestId) := overheard_alike _ _
  obtain ⟨value, kept, events⟩ := alike_submitApproval gate m approved (s, []) s rfl
  exact Publishing.ext (Prod.ext value (Prod.ext kept rfl)) events

/-- An answer to no gate that waits asks nothing. -/
theorem questions_of_absent
    (absent : ∀ r, m.session.approvals.outstanding = some r → r.requestId ≠ requestId) :
    questions rt m requestId approved s = [] := by
  unfold questions
  rw [submitApproval_of_absent rt.overheard approved (s, []) absent]
  rfl

/-- An answer to the gate that waits asks for its release, if it is an approval. -/
theorem questions_of_waiting {r : ApprovalRequest}
    (waiting : m.session.approvals.outstanding = some r) :
    questions rt m r.requestId approved s = if approved then [.release r.requestId] else [] := by
  unfold questions
  cases approved with
  | false =>
    rw [submitApproval_denied rt.overheard (s, []) waiting]
    rfl
  | true =>
    cases answer : (rt.overheard.approveGate r.requestId (s, [])).1 with
    | error e =>
      rw [submitApproval_refused rt.overheard waiting answer]
      rfl
    | ok a =>
      rw [submitApproval_granted rt.overheard waiting answer]
      rfl

/-! ## What an answer does -/

/-- **The answer to a gate is recorded**, all of it and nothing else. -/
structure Records (m : Monitor) (r : ApprovalRequest) (approved : Bool) (after : Monitor)
    (said : List Event) : Prop where
  /-- No gate waits any more. -/
  outstanding : after.session.approvals.outstanding = none
  /-- The one that did was answered, as were those before. -/
  resolved : after.session.approvals.resolved = r.gate :: m.session.approvals.resolved
  /-- A session that stood at the gate polls again, and any other stands where it did. -/
  state : after.session.state = if m.session.state = .gateActive then .polling else m.session.state
  /-- The mark of the gate is taken off, and every other node is the same. -/
  nodes : after.session.graph.nodes = m.session.graph.nodes.map fun n =>
    if n.id = r.nodeId ∧ n.status = .gated then
      { n with status := if n.lastOutput?.isSome then .executed else .plain }
    else n
  /-- The answer is announced, once, and then the state if it is another one. -/
  said : said = .approvalResolved r.requestId approved
    :: if m.session.state = .gateActive then [.stateChanged .gateActive .polling] else []
  /-- Nothing else is different. -/
  rest : after = { m with session := { m.session with
    state := after.session.state
    approvals := after.session.approvals
    graph := after.session.graph } }

theorem records_answered (m : Monitor) (r : ApprovalRequest) (approved : Bool) :
    Records m r approved { m with session := m.session.answered r }
      (.approvalResolved r.requestId approved :: m.session.resume.events) where
  outstanding := rfl
  resolved := rfl
  state := rfl
  nodes := by
    refine List.map_congr_left fun n _ => ?_
    dsimp only
    by_cases marked : n.id = r.nodeId ∧ n.status = .gated
    · rw [if_pos marked, if_pos marked.1, if_pos marked.2]
    · rw [if_neg marked]
      split
      · next here => rw [if_neg fun gated => marked ⟨here, gated⟩]
      · rfl
  said := by rw [Session.events_resume]
  rest := rfl

/-- **An answer that fails has done nothing**, and there are two reasons why it may fail. -/
theorem of_submitApproval_eq_error {e : Error}
    (failed : (submitApproval rt m requestId approved s).value.1.2 = .error e) :
    (submitApproval rt m requestId approved s).value.1.1 = m
      ∧ (submitApproval rt m requestId approved s).events = []
      ∧ ((∀ r, m.session.approvals.outstanding = some r → r.requestId ≠ requestId)
            ∧ e = .noOutstandingApproval requestId
            ∧ questions rt m requestId approved s = []
          ∨ approved = true ∧ (rt.approveGate requestId s).1 = .error e
            ∧ questions rt m requestId approved s = [.release requestId]) := by
  rcases submitApproval_cases rt m requestId approved s with
    ⟨absent, value⟩ | ⟨r, waiting, rfl,
      ⟨rfl, value⟩ | ⟨e', rfl, answer, value⟩ | ⟨a, rfl, -, value⟩⟩
  · rw [value] at failed ⊢
    cases failed
    exact ⟨rfl, rfl, Or.inl ⟨absent, rfl, questions_of_absent absent⟩⟩
  · rw [value] at failed
    cases failed
  · rw [value] at failed ⊢
    cases failed
    exact ⟨rfl, rfl, Or.inr ⟨rfl, answer, questions_of_waiting waiting⟩⟩
  · rw [value] at failed
    cases failed

/-- **An answer that succeeds is recorded.** -/
theorem of_submitApproval_eq_ok {acknowledgement : Option Acknowledgement}
    (ok : (submitApproval rt m requestId approved s).value.1.2 = .ok acknowledgement) :
    ∃ r, m.session.approvals.outstanding = some r ∧ r.requestId = requestId
      ∧ Records m r approved (submitApproval rt m requestId approved s).value.1.1
        (submitApproval rt m requestId approved s).events
      ∧ questions rt m requestId approved s = if approved then [.release requestId] else [] := by
  rcases submitApproval_cases rt m requestId approved s with
    ⟨-, value⟩ | ⟨r, waiting, rfl,
      ⟨rfl, value⟩ | ⟨e, rfl, -, value⟩ | ⟨a, rfl, -, value⟩⟩
  · rw [value] at ok
    cases ok
  · refine ⟨r, waiting, rfl, ?_, questions_of_waiting waiting⟩
    rw [value]
    exact records_answered m r false
  · rw [value] at ok
    cases ok
  · refine ⟨r, waiting, rfl, ?_, questions_of_waiting waiting⟩
    rw [value]
    exact records_answered m r true

/-- **What is granted is recorded**: once the gate waits, an answer succeeds unless the runtime
refuses it. -/
theorem submitApproval_of_waiting (rt : AgentRuntime σ) (approved : Bool) (s : σ)
    {r : ApprovalRequest} (waiting : m.session.approvals.outstanding = some r) :
    (submitApproval rt m r.requestId approved s).value.1.2
      = if approved then (rt.approveGate r.requestId s).1.map some else .ok none := by
  cases approved with
  | false => rw [submitApproval_denied rt s waiting, if_neg Bool.false_ne_true]
  | true =>
    rw [if_pos rfl]
    cases answer : (rt.approveGate r.requestId s).1 with
    | error e =>
      rw [submitApproval_refused rt waiting answer]
      rfl
    | ok acknowledgement =>
      rw [submitApproval_granted rt waiting answer]
      rfl

/-- **An answer counts altogether, or not at all.** Take any monitor, any runtime and any
answer. If it fails, the monitor is what it was and nothing is said; either no gate of that
run waits and nothing was asked, or the runtime was asked once to release it and would not. If
it succeeds, a gate of that run has waited, the answer to it is recorded, and the runtime was
asked once to release it if it was approved, and not asked if it was denied. Whether it
succeeds is up to the runtime alone once the gate waits: what is granted is recorded. -/
theorem answers_are_all_or_nothing (rt : AgentRuntime σ) (m : Monitor) (requestId : String)
    (approved : Bool) (s : σ) :
    let answer := submitApproval rt m requestId approved s
    let asked := questions rt m requestId approved s
    submitApproval rt.overheard m requestId approved (s, [])
        = ⟨(answer.value.1, answer.value.2, asked), answer.events⟩
      ∧ (∀ e, answer.value.1.2 = .error e → answer.value.1.1 = m ∧ answer.events = []
        ∧ ((∀ r, m.session.approvals.outstanding = some r → r.requestId ≠ requestId)
              ∧ e = .noOutstandingApproval requestId ∧ asked = []
            ∨ approved = true ∧ (rt.approveGate requestId s).1 = .error e
              ∧ asked = [.release requestId]))
      ∧ (∀ acknowledgement, answer.value.1.2 = .ok acknowledgement →
        ∃ r, m.session.approvals.outstanding = some r ∧ r.requestId = requestId
          ∧ Records m r approved answer.value.1.1 answer.events
          ∧ asked = if approved then [.release requestId] else [])
      ∧ ∀ r, m.session.approvals.outstanding = some r → r.requestId = requestId →
        answer.value.1.2
          = if approved then (rt.approveGate requestId s).1.map some else .ok none := by
  intro answer asked
  refine ⟨submitApproval_overheard rt m requestId approved s,
    fun e failed => of_submitApproval_eq_error failed,
    fun acknowledgement ok => of_submitApproval_eq_ok ok, ?_⟩
  rintro r waiting rfl
  exact submitApproval_of_waiting rt approved s waiting

/-- A monitor that was stopped at a gate: an approval that the runtime refuses leaves it as it
is, and one that is granted leaves it stopped. -/
theorem answers_are_all_or_nothing_at_gate :
    let m := (performAll InMemory.runtime (atGate, {}) [.stop]).value.1
    let refused := submitApproval InMemory.runtime m "run" true { refusesApprovals := true }
    let granted := submitApproval InMemory.runtime m "run" true {}
    (refused.value.1.2 = .error (.transport "HTTP 500: approve failed")
        ∧ refused.value.1.1 = m ∧ refused.events = [])
      ∧ granted.value.1.2 = .ok (some ⟨"Approved run"⟩)
      ∧ granted.value.1.1.session.state = .stopped
      ∧ granted.events = [.approvalResolved "run" true] := by
  intro m refused granted
  have failed : refused.value.1.2 = .error (.transport "HTTP 500: approve failed") := rfl
  obtain ⟨-, untouched, -, -⟩ :=
    answers_are_all_or_nothing InMemory.runtime m "run" true { refusesApprovals := true }
  obtain ⟨same, silent, -⟩ := untouched _ failed
  have ok : granted.value.1.2 = .ok (some ⟨"Approved run"⟩) := rfl
  obtain ⟨-, -, counts, -⟩ := answers_are_all_or_nothing InMemory.runtime m "run" true {}
  obtain ⟨r, -, run, recorded, -⟩ := counts _ ok
  refine ⟨⟨failed, same, silent⟩, ok, recorded.state, ?_⟩
  rw [← run]
  exact recorded.said

end Monitor

end AgentWorkflow
