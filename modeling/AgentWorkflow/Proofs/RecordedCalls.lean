import AgentWorkflow.Proofs.AlikeRuntimes

/-!
# The calls that release gates

A runtime releases a gate when it is asked to. Which of these calls a monitor
makes cannot be read off its events, since a call that fails leaves none. So
the calls are recorded where they arrive: `AgentRuntime.recorded` is a runtime
that answers like a given one and, beside it, writes down every call to release
a gate and whether it succeeded.

**A record must not disturb what it records.** A monitor over the recording
runtime takes the same states and says the same things as over the runtime
itself, and what it adds to the record does not depend on what is written there
already (`Monitor.performAll_recorded`). Only an answer adds anything. All other
operations are computations that never write (`Asking.Unrecorded`), since for them
the two runtimes answer alike.
-/

namespace AgentWorkflow

/-- A call to release a gate. -/
structure Call where
  /-- The run whose gate was to be released. -/
  requestId : String
  /-- Whether it was. -/
  succeeded : Bool
  deriving DecidableEq

/-- **A runtime that keeps a record** of the calls to release gates, the
earliest first. It answers like the runtime it is made from. -/
def AgentRuntime.recorded {σ : Type} (rt : AgentRuntime σ) : AgentRuntime (σ × List Call) where
  fetchDefinition name s := ((rt.fetchDefinition name s.1).1, (rt.fetchDefinition name s.1).2, s.2)
  fetchActive s := ((rt.fetchActive s.1).1, (rt.fetchActive s.1).2, s.2)
  fetchHistory limit s := ((rt.fetchHistory limit s.1).1, (rt.fetchHistory limit s.1).2, s.2)
  fetchRun runId s := ((rt.fetchRun runId s.1).1, (rt.fetchRun runId s.1).2, s.2)
  saveDefinition name definition s :=
    ((rt.saveDefinition name definition s.1).1, (rt.saveDefinition name definition s.1).2, s.2)
  approveGate requestId s :=
    ((rt.approveGate requestId s.1).1, (rt.approveGate requestId s.1).2,
      s.2 ++ [⟨requestId, (rt.approveGate requestId s.1).1.isOk⟩])

namespace Asking

variable {σ α : Type}

/-- **A computation that never writes to the record**, beside the same
computation where no record is kept. -/
def Unrecorded (x' : Asking (σ × List Call) α) (x : Asking σ α) : Prop :=
  ∀ s log, x' (s, log) = ⟨((x s).value.1, (x s).value.2, log), (x s).events⟩

end Asking

namespace Monitor

open Asking (Unrecorded)

variable {σ : Type} (rt : AgentRuntime σ)

/-! ## Operations that never write -/

/-- Beside a record a runtime answers as it does without one, and what is written there
stays as it is unless a gate is to be released. -/
theorem recorded_alike (log : List Call) :
    rt.recorded.Alike (fun (t : σ × List Call) s => t = (s, log)) rt where
  definition _ := by rintro _ s rfl; exact ⟨rfl, rfl⟩
  active := by rintro _ s rfl; exact ⟨rfl, rfl⟩
  history _ := by rintro _ s rfl; exact ⟨rfl, rfl⟩
  run _ := by rintro _ s rfl; exact ⟨rfl, rfl⟩
  save _ _ := by rintro _ s rfl; exact ⟨rfl, rfl⟩

/-- **Whatever is not an answer** writes nothing. -/
theorem unrecorded_obey (m : Monitor) {op : Operation}
    (silent : ∀ requestId approved, op ≠ .submitApproval requestId approved) :
    Unrecorded (obey rt.recorded m op) (obey rt m op) := by
  intro s log
  obtain ⟨value, kept, events⟩ := alike_obey (recorded_alike rt log) m
    (fun requestId approved answer => absurd answer (silent requestId approved)) (s, log) s rfl
  exact Publishing.ext (Prod.ext value kept) events

/-! ## What an answer writes -/

/-- **The calls that an operation makes.** Only an approval of the gate that
waits makes one. -/
def called (w : Monitor × σ) : Operation → List Call
  | .submitApproval requestId true =>
    if w.1.session.approvals.outstanding.any fun r => r.requestId = requestId then
      [⟨requestId, (rt.approveGate requestId w.2).1.isOk⟩]
    else []
  | _ => []

theorem called_of_ne (w : Monitor × σ) {op : Operation}
    (silent : ∀ requestId, op ≠ .submitApproval requestId true) : called rt w op = [] := by
  unfold called
  split
  · next requestId => exact absurd rfl (silent requestId)
  · rfl

theorem called_of_denial (w : Monitor × σ) (requestId : String) :
    called rt w (.submitApproval requestId false) = [] :=
  rfl

theorem called_of_waiting {w : Monitor × σ} {r : ApprovalRequest}
    (waiting : w.1.session.approvals.outstanding = some r) :
    called rt w (.submitApproval r.requestId true)
      = [⟨r.requestId, (rt.approveGate r.requestId w.2).1.isOk⟩] := by
  unfold called
  rw [waiting]
  exact if_pos (decide_eq_true rfl)

theorem called_of_absent {w : Monitor × σ} {requestId : String} (approved : Bool)
    (absent : ∀ r, w.1.session.approvals.outstanding = some r → r.requestId ≠ requestId) :
    called rt w (.submitApproval requestId approved) = [] := by
  have none : w.1.session.approvals.outstanding.any (fun r => r.requestId = requestId) = false := by
    cases waiting : w.1.session.approvals.outstanding with
    | none => rfl
    | some r => exact decide_eq_false (absent r waiting)
  cases approved with
  | false => rfl
  | true =>
    refine if_neg ?_
    rw [none]
    exact Bool.false_ne_true

theorem perform_submitApproval (w : Monitor × σ) (requestId : String) (approved : Bool) :
    perform rt w (.submitApproval requestId approved)
      = ⟨((submitApproval rt w.1 requestId approved w.2).value.1.1,
            (submitApproval rt w.1 requestId approved w.2).value.2),
          (submitApproval rt w.1 requestId approved w.2).events⟩ :=
  Asking.map_apply Prod.fst (submitApproval rt w.1 requestId approved) w.2

/-- **One operation beside a record** does what it does without one, and writes
down its calls. -/
theorem perform_recorded (w : Monitor × σ) (op : Operation) (log : List Call) :
    perform rt.recorded (w.1, w.2, log) op
      = ⟨((perform rt w op).value.1, (perform rt w op).value.2, log ++ called rt w op),
          (perform rt w op).events⟩ := by
  by_cases answer : ∃ requestId approved, op = .submitApproval requestId approved
  · obtain ⟨requestId, approved, rfl⟩ := answer
    rw [perform_submitApproval, perform_submitApproval]
    -- the gate that waits is the same beside a record, so the same case is met on both sides
    rcases submitApproval_cases rt w.1 requestId approved w.2 with
      ⟨absent, value⟩ | ⟨r, waiting, rfl,
        ⟨rfl, value⟩ | ⟨e, rfl, answer, value⟩ | ⟨a, rfl, answer, value⟩⟩
    · rw [submitApproval_of_absent rt.recorded approved (w.2, log) absent, value,
        called_of_absent rt approved absent, List.append_nil]
      rfl
    · rw [submitApproval_denied rt.recorded (w.2, log) waiting, value, called_of_denial,
        List.append_nil]
    · rw [submitApproval_refused rt.recorded (s := (w.2, log)) waiting answer, value,
        called_of_waiting rt waiting]
      rfl
    · rw [submitApproval_granted rt.recorded (s := (w.2, log)) waiting answer, value,
        called_of_waiting rt waiting]
      rfl
  · have silent : ∀ requestId approved, op ≠ .submitApproval requestId approved :=
      fun requestId approved same => answer ⟨requestId, approved, same⟩
    rw [called_of_ne rt w fun requestId => silent requestId true, List.append_nil]
    exact unrecorded_obey rt w.1 silent w.2 log

/-! ## Runs beside a record -/

/-- The operations of a run, each with where the run has come when it is carried
out. -/
def steps : Monitor × σ → List Operation → List ((Monitor × σ) × Operation)
  | _, [] => []
  | w, op :: ops => (w, op) :: steps (perform rt w op).value ops

/-- **The calls that arrive** in the course of a run. -/
def calls (w : Monitor × σ) (ops : List Operation) : List Call :=
  (performAll rt.recorded (w.1, w.2, []) ops).value.2.2

theorem performAll_recorded_append (w : Monitor × σ) (ops : List Operation) (log : List Call) :
    performAll rt.recorded (w.1, w.2, log) ops
      = ⟨((performAll rt w ops).value.1, (performAll rt w ops).value.2,
            log ++ (steps rt w ops).flatMap fun x => called rt x.1 x.2),
          (performAll rt w ops).events⟩ := by
  unfold performAll
  induction ops generalizing w log with
  | nil => exact Publishing.ext (by rw [steps, List.flatMap_nil, List.append_nil]; rfl) rfl
  | cons op ops ih =>
    have first := perform_recorded rt w op log
    have rest := ih (perform rt w op).value (log ++ called rt w op)
    rw [List.append_assoc] at rest
    rw [List.foldlM_cons, List.foldlM_cons, steps, List.flatMap_cons, first]
    refine Publishing.ext ?_ ?_
    · rw [Publishing.value_bind, Publishing.value_bind]
      exact (congrArg Publishing.value rest :)
    · rw [Publishing.events_bind, Publishing.events_bind]
      exact (congrArg (fun p => (perform rt w op).events ++ p.events) rest :)

/-- The calls of a run are those of its operations. -/
theorem calls_eq_flatMap (w : Monitor × σ) (ops : List Operation) :
    calls rt w ops = (steps rt w ops).flatMap fun x => called rt x.1 x.2 := by
  unfold calls
  rw [performAll_recorded_append, List.nil_append]

/-- **A run beside a record** takes the same states and says the same things as
one without, and the record holds its calls. -/
theorem performAll_recorded (w : Monitor × σ) (ops : List Operation) :
    performAll rt.recorded (w.1, w.2, []) ops
      = ⟨((performAll rt w ops).value.1, (performAll rt w ops).value.2, calls rt w ops),
          (performAll rt w ops).events⟩ := by
  rw [calls_eq_flatMap, performAll_recorded_append, List.nil_append]

theorem calls_singleton (w : Monitor × σ) (op : Operation) : calls rt w [op] = called rt w op := by
  rw [calls_eq_flatMap]
  exact List.append_nil _

end Monitor

end AgentWorkflow
