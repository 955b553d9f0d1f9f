import AgentWorkflow.Http.Wire
import AgentWorkflow.Proofs.SentRequests

/-!
# How a runtime over HTTP fails

Whoever watches a run does not care why the runtime could not be asked. An address nothing
can be sent to, an answer that never came, a status that does not tell of success, a body
that is not what it should be: each of them is told as a failure of transport, and the
next question may do better. A name under which no definition can be stored is another
matter. It is refused as what it is, before anything is sent.

**One failure is told otherwise.** The live runs are read in two steps, the body as JSON
and the JSON as runs. A body that is no JSON fails in the first step, and JSON that is no
object in the second, and both are failures of transport. But an object one of whose members
is no snapshot is refused as bad JSON. `Http.failures_are_uniform_iff` says that this is
the only exception, and when it is met: when the server answers with success and reports
such an object. One run that is not reported as it should be is enough
(`Http.live_runs_refused_as_json`).
-/

namespace AgentWorkflow

variable {σ α : Type} {e : Error}

/-! ## Failures of transport -/

@[simp] theorem failure?_eq_some_iff {answer : Except Error α} :
    failure? answer = some e ↔ answer = .error e := by
  cases answer <;> simp [failure?]

/-- **The runtime could not be reached**, or it did not answer as it should. -/
def Error.IsTransport (e : Error) : Prop := ∃ detail, e = .transport detail

/-- The name under which a definition is asked for or stored. -/
def Question.storedName? : Question → Option String
  | .definition name => some name
  | .storage name _ => some name
  | _ => none

/-- A name is refused as what it is, if no definition can be stored under it. -/
theorem checkWorkflowName_eq_error_iff {name : String} :
    checkWorkflowName name = .error e
      ↔ isWorkflowName name = false ∧ e = .invalidWorkflowName name := by
  unfold checkWorkflowName
  cases isWorkflowName name <;> simp [eq_comm]

namespace Http

theorem isTransport_failure (what detail : String) : (failure what detail).IsTransport := ⟨_, rfl⟩

/-- **A request that cannot be made** is a failure of transport. -/
theorem isTransport_of_makeRequest {what address : String} {extend : Url → Url} {method : Method}
    {authorization body : Option String}
    (failed : makeRequest what address extend method authorization body = .error e) :
    e.IsTransport := by
  unfold makeRequest at failed
  split at failed
  · exact Except.error.inj failed ▸ isTransport_failure _ _
  · split at failed
    · exact Except.error.inj failed ▸ isTransport_failure _ _
    · split at failed
      · exact Except.error.inj failed ▸ isTransport_failure _ _
      · dsimp only at failed
        split at failed
        · cases failed
        · exact Except.error.inj failed ▸ isTransport_failure _ _

theorem isTransport_of_get {config : RuntimeConfig} {what path : String} {extend : Url → Url}
    (failed : get config what path extend = .error e) : e.IsTransport := by
  unfold get at failed
  exact isTransport_of_makeRequest failed

theorem isTransport_of_post {config : RuntimeConfig} {what path : String} {body : Json}
    (failed : post config what path body = .error e) : e.IsTransport := by
  unfold post at failed
  exact isTransport_of_makeRequest failed

/-- **An answer that is of no use** is a failure of transport. -/
theorem isTransport_of_readAnswer {what : String} {url : Url} {read : String → Option α}
    {answer : Answer} (failed : readAnswer what url read answer = .error e) : e.IsTransport := by
  unfold readAnswer at failed
  split at failed
  · exact Except.error.inj failed ▸ isTransport_failure _ _
  · split at failed
    · split at failed
      · cases failed
      · exact Except.error.inj failed ▸ isTransport_failure _ _
    · exact Except.error.inj failed ▸ isTransport_failure _ _

/-- **An exchange fails as its request does**, or for want of an answer that is of use. -/
theorem of_exchange_eq_error {link : Link σ} {what : String} {read : String → Option α}
    {made : Except Error Request} {s : σ} (failed : (exchange link what read made s).1 = .error e) :
    made = .error e ∨ e.IsTransport := by
  cases made with
  | error e' => exact Or.inl (congrArg Except.error (Except.error.inj failed))
  | ok request => exact Or.inr (isTransport_of_readAnswer failed)

/-- **A question that becomes no request** cannot be sent, or names a definition by a name
that is refused. -/
theorem of_requestFor_eq_error {config : RuntimeConfig} {q : Question}
    (failed : requestFor config q = .error e) :
    e.IsTransport ∨ ∃ name, q.storedName? = some name ∧ isWorkflowName name = false
      ∧ e = .invalidWorkflowName name := by
  have named {name : String} {made : Except Error Request}
      (making : made = .error e → e.IsTransport)
      (failed : ((checkWorkflowName name).bind fun _ => made) = .error e) :
      e.IsTransport ∨ isWorkflowName name = false ∧ e = .invalidWorkflowName name := by
    cases checked : checkWorkflowName name with
    | error e' =>
      rw [checked] at failed
      obtain rfl : e' = e := Except.error.inj failed
      exact Or.inr (checkWorkflowName_eq_error_iff.mp checked)
    | ok =>
      rw [checked] at failed
      exact Or.inl (making failed)
  cases q with
  | definition name =>
    exact (named isTransport_of_get failed).imp_right fun refused => ⟨name, rfl, refused⟩
  | storage name definition =>
    exact (named isTransport_of_post failed).imp_right fun refused => ⟨name, rfl, refused⟩
  | live | history | finished =>
    rw [requestFor] at failed
    exact Or.inl (isTransport_of_get failed)
  | release =>
    rw [requestFor] at failed
    exact Or.inl (isTransport_of_post failed)

end Http

/-! ## Live runs -/

/-- **The members of a report fail to be live runs** if one of them is no snapshot, and
then they are refused as bad JSON. -/
theorem ActiveInstance.parseAll_obj_eq_error_iff {members : List (String × Json)} :
    parseAll (.obj members) = .error e
      ↔ (∃ m ∈ members, Snapshot.ofDocument? m.2.toDocument = none)
        ∧ e = .json "a live instance is not a snapshot" := by
  unfold parseAll
  dsimp only
  induction members with
  | nil => simp [pure, Except.pure]
  | cons m members ih =>
    rw [List.mapM_cons]
    cases first : Snapshot.ofDocument? m.2.toDocument with
    | none => simp [bind, Except.bind, first, eq_comm]
    | some snapshot =>
      have others : (∃ n ∈ m :: members, Snapshot.ofDocument? n.2.toDocument = none)
          ↔ ∃ n ∈ members, Snapshot.ofDocument? n.2.toDocument = none := by simp [first]
      have decides (a : ActiveInstance) {rest : Except Error (List ActiveInstance)} :
          (rest >>= fun as => pure (a :: as)) = .error e ↔ rest = .error e := by
        cases rest <;> simp [bind, Except.bind, pure, Except.pure]
      rw [others, ← ih]
      -- the first member is a run, so what the others come to decides
      exact decides ⟨m.1, snapshot⟩

/-- **A report that is no report of live runs** is refused as bad JSON if it is an object, and
otherwise as a failure of transport. -/
theorem ActiveInstance.of_parseAll_eq_error {report : Json} (failed : parseAll report = .error e) :
    e.IsTransport ∨ ∃ members, report = .obj members
      ∧ ∃ m ∈ members, Snapshot.ofDocument? m.2.toDocument = none := by
  cases report with
  | null => cases failed
  | obj members => exact Or.inr ⟨members, rfl, (parseAll_obj_eq_error_iff.mp failed).1⟩
  | bool | num | str | arr => exact Or.inl ⟨_, (Except.error.inj failed).symm⟩

namespace Http

variable {config : RuntimeConfig} {link : Link σ} {s : σ} {q : Question}

/-! ## Questions -/

/-- **The server reports something that is no run among its live runs**: it answers with
success, and its body is a JSON object one of whose members is no snapshot. -/
def Misreports (config : RuntimeConfig) (link : Link σ) (s : σ) : Prop :=
  ∃ request status body text members, requestFor config .live = .ok request
    ∧ (link request s).1 = .response status body ∧ isSuccess status = true
    ∧ Utf8.text? body = some text ∧ Json.parse? text = some (.obj members)
    ∧ ∃ m ∈ members, Snapshot.ofDocument? m.2.toDocument = none

/-- What is read of an answer is read of the body, if the answer tells of success. -/
theorem readAnswer_eq_ok_iff {what : String} {url : Url} {read : String → Option α}
    {answer : Answer} {a : α} :
    readAnswer what url read answer = .ok a
      ↔ ∃ status body text, answer = .response status body ∧ isSuccess status = true
        ∧ Utf8.text? body = some text ∧ read text = some a := by
  constructor
  · intro succeeded
    unfold readAnswer at succeeded
    split at succeeded
    · cases succeeded
    · next status body =>
      split at succeeded
      · next success =>
        split at succeeded
        · next b read =>
          obtain rfl := Except.ok.inj succeeded
          obtain ⟨text, spelled, read⟩ := Option.bind_eq_some_iff.mp read
          exact ⟨status, body, text, rfl, success, spelled, read⟩
        · cases succeeded
      · cases succeeded
  · rintro ⟨status, body, text, rfl, success, spelled, read⟩
    rw [readAnswer, if_pos success, spelled, Option.bind_some, read]

theorem exchange_eq_ok_iff {what : String} {read : String → Option α}
    {made : Except Error Request} {a : α} :
    (exchange link what read made s).1 = .ok a
      ↔ ∃ request, made = .ok request
        ∧ readAnswer what request.url read (link request s).1 = .ok a := by
  cases made with
  | error e => exact iff_of_false nofun fun ⟨_, made, _⟩ => nomatch made
  | ok request =>
    exact ⟨fun read => ⟨request, rfl, read⟩, fun ⟨_, made, read⟩ => Except.ok.inj made ▸ read⟩

theorem fetchActive_fst (config : RuntimeConfig) (link : Link σ) (s : σ) :
    ((runtime config link).fetchActive s).1
      = (exchange link "fetch active" Json.parse? (requestFor config .live) s).1.bind
          ActiveInstance.parseAll := by
  simp only [runtime, requestFor]

/-- A report of something that is no live run is refused as bad JSON. -/
theorem fetchActive_of_misreports {config : RuntimeConfig} (misreports : Misreports config link s) :
    ((runtime config link).fetchActive s).1
      = .error (.json "a live instance is not a snapshot") := by
  obtain ⟨request, status, body, text, members, made, answer, success, spelled, read, bad⟩ :=
    misreports
  have reported : (exchange link "fetch active" Json.parse? (requestFor config .live) s).1
      = .ok (.obj members) :=
    exchange_eq_ok_iff.mpr ⟨request, made,
      readAnswer_eq_ok_iff.mpr ⟨status, body, text, answer, success, spelled, read⟩⟩
  rw [fetchActive_fst, reported]
  exact ActiveInstance.parseAll_obj_eq_error_iff.mpr ⟨bad, rfl⟩

/-- **To ask for the live runs fails otherwise than in transport** exactly if the server
reports something that is none. -/
theorem exists_fetchActive_eq_error_iff (config : RuntimeConfig) (link : Link σ) (s : σ) :
    (∃ e, ((runtime config link).fetchActive s).1 = .error e ∧ ¬e.IsTransport)
      ↔ Misreports config link s := by
  constructor
  · rintro ⟨e, failed, other⟩
    rw [fetchActive_fst] at failed
    cases reported : (exchange link "fetch active" Json.parse? (requestFor config .live) s).1 with
    | error e' =>
      rw [reported] at failed
      obtain rfl : e' = e := Except.error.inj failed
      rcases of_exchange_eq_error reported with failed | transport
      · rcases of_requestFor_eq_error failed with transport | ⟨name, named, -⟩
        · exact absurd transport other
        · cases named
      · exact absurd transport other
    | ok report =>
      rw [reported] at failed
      rcases ActiveInstance.of_parseAll_eq_error failed with transport | ⟨members, rfl, bad⟩
      · exact absurd transport other
      · obtain ⟨request, made, read⟩ := exchange_eq_ok_iff.mp reported
        obtain ⟨status, body, text, answer, success, spelled, read⟩ := readAnswer_eq_ok_iff.mp read
        exact ⟨request, status, body, text, members, made, answer, success, spelled, read, bad⟩
  · exact fun misreports => ⟨_, fetchActive_of_misreports misreports, nofun⟩

/-- A name that is refused is refused before anything is sent. -/
theorem put_of_refused (config : RuntimeConfig) (link : Link σ) (s : σ) {name : String}
    (named : q.storedName? = some name) (refused : isWorkflowName name = false) :
    ((runtime config link).put s q).1 = some (.invalidWorkflowName name)
      ∧ sent config link s q = [] := by
  have checked : checkWorkflowName name = .error (.invalidWorkflowName name) :=
    checkWorkflowName_eq_error_iff.mpr ⟨refused, rfl⟩
  rw [sent_eq]
  cases q with
  | definition | storage =>
    obtain rfl := Option.some.inj named
    simp only [AgentRuntime.put, runtime, requestFor, checked]
    exact ⟨rfl, rfl⟩
  | live | history | finished | release => cases named

/-- **Every failure is told in one way**: as a failure of transport, or, for a name under
which no definition can be stored, as that, before anything is sent. The exception is
a server that reports something that is no run among its live runs. Names are refused
in no other way. -/
theorem failures_are_uniform_iff (config : RuntimeConfig) (link : Link σ) (s : σ) (q : Question) :
    ((∀ e, ((runtime config link).put s q).1 = some e → e.IsTransport
          ∨ ∃ name, q.storedName? = some name ∧ isWorkflowName name = false
            ∧ e = .invalidWorkflowName name ∧ sent config link s q = [])
        ↔ ¬(q = .live ∧ Misreports config link s))
      ∧ ∀ name, q.storedName? = some name → isWorkflowName name = false →
        ((runtime config link).put s q).1 = some (.invalidWorkflowName name) := by
  refine ⟨⟨?_, ?_⟩, fun name named refused => (put_of_refused config link s named refused).1⟩
  · rintro uniform ⟨rfl, misreports⟩
    obtain ⟨e, failed, other⟩ := (exists_fetchActive_eq_error_iff config link s).mpr misreports
    rw [AgentRuntime.put_live] at uniform
    rcases uniform e (failure?_eq_some_iff.mpr failed) with transport | ⟨name, named, -⟩
    · exact other transport
    · cases named
  · intro reports e failed
    by_cases live : q = .live
    · subst live
      rw [AgentRuntime.put_live] at failed
      refine Or.inl (Classical.byContradiction fun other => reports ⟨rfl, ?_⟩)
      exact (exists_fetchActive_eq_error_iff config link s).mp
        ⟨e, failure?_eq_some_iff.mp failed, other⟩
    · obtain ⟨α, what, read, exchanged⟩ := exists_put_eq_exchange config link s live
      rw [exchanged, failure?_eq_some_iff] at failed
      rcases of_exchange_eq_error failed with failed | transport
      · rcases of_requestFor_eq_error failed with transport | ⟨name, named, refused, told⟩
        · exact Or.inl transport
        · exact Or.inr ⟨name, named, refused, told, (put_of_refused config link s named refused).2⟩
      · exact Or.inl transport

/-- Whether a report is an object one of whose members is no snapshot. -/
def isMisreport : Json → Bool
  | .obj members => members.any fun m => (Snapshot.ofDocument? m.2.toDocument).isNone
  | _ => false

theorem isMisreport_iff {report : Json} :
    isMisreport report = true ↔ ∃ members, report = .obj members
      ∧ ∃ m ∈ members, Snapshot.ofDocument? m.2.toDocument = none := by
  cases report with
  | obj members => simp [isMisreport]
  | null | bool | num | str | arr => simp [isMisreport]

/-- A report of one live run that is a number. -/
def numberReport : String := "\x7b\"r\":5\x7d"

/-- **One live run that is not reported as it should be** makes the report bad JSON, and the
failure is not told as one of transport. -/
theorem live_runs_refused_as_json :
    let link : Link Unit := fun _ s => (.response 200 (bytes numberReport), s)
    let e : Error := .json "a live instance is not a snapshot"
    ((runtime {} link).put () .live).1 = some e ∧ ¬e.IsTransport := by
  intro link e
  have made : (requestFor {} .live).isOk = true := by decide +kernel
  have spelled : Utf8.text? (bytes numberReport) = some numberReport := by decide +kernel
  have read : (Json.parse? numberReport).any isMisreport = true := by decide +kernel
  have misreports : Misreports {} link () := by
    cases asked : requestFor {} .live with
    | error e =>
      rw [asked] at made
      cases made
    | ok request =>
      obtain ⟨report, parsed, refused⟩ := (Option.any_eq_true _ _).mp read
      obtain ⟨members, rfl, bad⟩ := isMisreport_iff.mp refused
      exact ⟨request, 200, _, _, members, asked, rfl, rfl, spelled, parsed, bad⟩
  rw [AgentRuntime.put_live]
  exact ⟨failure?_eq_some_iff.mpr (fetchActive_of_misreports misreports), nofun⟩

end Http

end AgentWorkflow
