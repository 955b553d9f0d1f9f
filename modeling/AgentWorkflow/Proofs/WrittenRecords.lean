import AgentWorkflow.Proofs.WrittenDefinitions
import AgentWorkflow.Run

/-!
# Records that are read, written and read again

Definitions, snapshots and the records of finished runs are read from documents,
kept for a while, and written again. Nothing may be lost on the way, however the
document spelled the record: with members that nobody asked for, with null in the
place of what is absent, as an array of fields.

**Reading makes proper what it reads.** What a record keeps as it is, the properties of
a node, the value of an input, the outputs of a run, is proper once it was read. Every
proper record is read as it was written, so one that was read can be written and read as
itself (`records_read_again`), and whoever writes it a second time writes the same.

**Null is the one danger.** The value of an input is optional, and null stands for its
absence. If null could be read *as* a value, it would be written and be gone at the
next reading. No null of the document is, because the reader takes it for absence first.
But a number that is not finite has null as its value. JSON cannot spell such a number,
and no proper value holds one, so the documents here are those whose numbers are finite
(`Document.Finite`); other formats can spell it (`InputDescriptor.infinite_value_is_lost`).
-/

namespace AgentWorkflow

/-! ## Documents with finite numbers -/

namespace Document

/-- **All numbers of the document are finite**, as they are in every JSON text. -/
inductive Finite : Document → Prop where
  | null : Finite .null
  | bool (b : Bool) : Finite (.bool b)
  | int (n : Int) : Finite (.num (.int n))
  | float {x : Float} (finite : x.isFinite = true) : Finite (.num (.float x))
  | str (s : String) : Finite (.str s)
  | arr {items : List Document} (each : ∀ d ∈ items, d.Finite) : Finite (.arr items)
  | obj {members : List (String × Document)} (each : ∀ m ∈ members, m.2.Finite) :
      Finite (.obj members)
  | unusable : Finite .unusable

variable {d : Document}

attribute [simp] Finite.null Finite.bool Finite.int Finite.str Finite.unusable

@[simp] theorem finite_arr_iff {items : List Document} :
    (Document.arr items).Finite ↔ ∀ d ∈ items, d.Finite := by
  constructor
  · rintro (_ | _ | _ | _ | _ | each)
    exact each
  · exact .arr

@[simp] theorem finite_obj_iff {members : List (String × Document)} :
    (Document.obj members).Finite ↔ ∀ m ∈ members, m.2.Finite := by
  constructor
  · rintro (_ | _ | _ | _ | _ | _ | each)
    exact each
  · exact .obj

/-- Only null has null as its value, if all numbers are finite. -/
theorem Finite.ne_null_of_toJson? (finite : d.Finite) (present : d ≠ .null) {j : Json}
    (read : d.toJson? = some j) : j ≠ .null := by
  rintro rfl
  cases finite with
  | null => exact present rfl
  | float finite =>
    rw [toJson?, if_pos finite] at read
    cases read
  | arr each =>
    rw [toJson?, Option.map_eq_some_iff] at read
    obtain ⟨js, -, same⟩ := read
    cases same
  | obj each =>
    rw [toJson?, Option.map_eq_some_iff] at read
    obtain ⟨ms, -, same⟩ := read
    cases same
  | bool | int | str | unusable => cases read

theorem Finite.of_fields? (finite : d.Finite) {names : List String}
    {fields : List (String × Document)} (read : d.fields? names = some fields) :
    ∀ m ∈ fields, m.2.Finite := by
  intro m hm
  cases d with
  | obj members =>
    dsimp only [fields?] at read
    split at read
    · obtain rfl := Option.some.inj read
      exact finite_obj_iff.mp finite m (List.mem_filter.mp hm).1
    · cases read
  | arr items =>
    dsimp only [fields?] at read
    split at read
    · obtain rfl := Option.some.inj read
      exact finite_arr_iff.mp finite m.2 (List.of_mem_zip hm).2
    · cases read
  | null | bool | num | str | unusable => cases read

theorem mem_of_lookup {fields : List (String × Document)} {name : String}
    (found : fields.lookup name = some d) : (name, d) ∈ fields := by
  obtain ⟨before, after, rfl, -⟩ := List.lookup_eq_some_iff.mp found
  exact List.mem_append_right before List.mem_cons_self

/-- **What was read of an optional field** was read of a part of the document that is not
null. -/
theorem of_optional_eq_some {α : Type} {fields : List (String × Document)} {name : String}
    {read : Document → Option α} {a : α} (h : optional fields name read = some (some a)) :
    ∃ e, (name, e) ∈ fields ∧ e ≠ .null ∧ read e = some a := by
  unfold optional at h
  split at h
  · cases h
  · cases h
  · next e present found =>
    obtain ⟨b, read, same⟩ := Option.map_eq_some_iff.mp h
    obtain rfl := Option.some.inj same
    exact ⟨e, mem_of_lookup found, fun null => present null, read⟩

/-- What was read of a field with a default is the default, or was read of a part of the
document. -/
theorem of_defaulted_eq_some {α : Type} {fields : List (String × Document)} {name : String}
    {default a : α} {read : Document → Option α} (h : defaulted fields name default read = some a) :
    a = default ∨ ∃ e, (name, e) ∈ fields ∧ read e = some a := by
  unfold defaulted at h
  split at h
  · exact Or.inl (Option.some.inj h).symm
  · next e found => exact Or.inr ⟨e, mem_of_lookup found, h⟩

theorem of_orNull_eq_some {α : Type} {default a : α} {read : Document → Option α}
    (h : orNull default read d = some a) : a = default ∨ read d = some a := by
  unfold orNull at h
  split at h
  · exact Or.inl (Option.some.inj h).symm
  · exact Or.inr h

theorem proper_of_members? {fs : Fields} (read : d.members? = some fs) : fs.Proper := by
  cases d with
  | obj members =>
    obtain ⟨ms, values, rfl⟩ := Option.map_eq_some_iff.mp read
    exact ⟨Fields.nodup_keys_ofMembers ms, fun m hm =>
      proper_of_membersToJson? members values m (Fields.mem_of_mem_ofMembers hm)⟩
  | _ => cases read

/-- **Proper members are read as they were written.** -/
theorem members?_toDocument {fs : Fields} (proper : fs.Proper) :
    (Json.obj fs).toDocument.members? = some fs := by
  rw [Json.toDocument, Json.membersToDocument_eq_map, members?,
    Json.membersToJson?_map fun m hm => (proper.each m hm).toJson?_toDocument, Option.map_some,
    Fields.ofMembers_of_nodup proper.distinct]

theorem list?_text? (texts : List String) :
    list? text? (Json.arr (texts.map .str)).toDocument = some texts := by
  rw [Json.toDocument, Json.itemsToDocument_eq_map, List.map_map]
  exact list?_map fun s _ => rfl

end Document

namespace Json

variable {items : List Json} {members : Fields}

@[simp] theorem finite_toDocument_null : Json.null.toDocument.Finite := .null

@[simp] theorem finite_toDocument_str (s : String) : (Json.str s).toDocument.Finite := .str s

@[simp] theorem finite_toDocument_ofText? (s : Option String) : (ofText? s).toDocument.Finite := by
  cases s <;> simp [ofText?]

@[simp] theorem finite_toDocument_arr :
    (Json.arr items).toDocument.Finite ↔ ∀ j ∈ items, j.toDocument.Finite := by
  rw [toDocument, itemsToDocument_eq_map, Document.finite_arr_iff, List.forall_mem_map]

@[simp] theorem finite_toDocument_obj :
    (Json.obj members).toDocument.Finite ↔ ∀ m ∈ members, m.2.toDocument.Finite := by
  rw [toDocument, membersToDocument_eq_map, Document.finite_obj_iff, List.forall_mem_map]

/-- **The numbers of a proper value are finite**, so it is written as a document whose
numbers are. -/
theorem Proper.finite_toDocument {j : Json} (proper : j.Proper) : j.toDocument.Finite := by
  induction proper with
  | null => exact .null
  | bool b => exact .bool b
  | int n => exact .int n
  | float finite => exact .float finite
  | str s => exact .str s
  | arr _ each => exact finite_toDocument_arr.mpr each
  | obj _ _ each => exact finite_toDocument_obj.mpr each

end Json

/-! ## Definitions -/

/-- **The value of an input that was read** is proper, and it is there. -/
theorem InputDescriptor.proper_of_ofDocument? {d : Document} (finite : d.Finite)
    {i : InputDescriptor} (read : ofDocument? d = some i) : i.Proper := by
  obtain ⟨fields, known, read⟩ := Option.bind_eq_some_iff.mp read
  obtain ⟨name, -, read⟩ := Option.bind_eq_some_iff.mp read
  obtain ⟨connection, -, read⟩ := Option.bind_eq_some_iff.mp read
  obtain ⟨value, given, read⟩ := Option.bind_eq_some_iff.mp read
  obtain rfl := Option.some.inj read
  rintro v rfl
  obtain ⟨e, here, present, read⟩ := Document.of_optional_eq_some given
  exact ⟨e.proper_of_toJson? read,
    (finite.of_fields? known _ here).ne_null_of_toJson? present read⟩

theorem InputDescriptor.Proper.finite_toDocument {i : InputDescriptor} (proper : i.Proper) :
    i.toJson.toDocument.Finite := by
  simp only [toJson, Json.finite_toDocument_obj, List.forall_mem_append, List.forall_mem_map,
    Option.mem_toList]
  refine ⟨⟨by simp, fun c _ => ?_⟩, fun v given => (proper v given).1.finite_toDocument⟩
  simp [Connection.toJson]

/-- **A value that is not finite is lost**: it is read as null, and where null was written
there is no value. -/
theorem InputDescriptor.infinite_value_is_lost (name : String) {x : Float}
    (infinite : x.isFinite = false) :
    let i : InputDescriptor := { name, value := some .null }
    ofDocument? (.obj [("name", .str name), ("value", .num (.float x))]) = some i
      ∧ ofDocument? i.toJson.toDocument = some { name } := by
  intro i
  refine ⟨?_, rfl⟩
  have value : (Document.num (.float x)).toJson? = some .null := by
    rw [Document.toJson?, infinite]
    rfl
  show ((Document.num (.float x)).toJson?.map some).bind (fun value =>
    some (InputDescriptor.mk name none value)) = some i
  rw [value]
  rfl

/-- **A node that was read is proper.** -/
theorem NodeDescriptor.proper_of_ofDocument? {d : Document} (finite : d.Finite)
    {n : NodeDescriptor} (read : ofDocument? d = some n) : n.Proper := by
  obtain ⟨properties, apart⟩ := of_ofDocument? read
  refine ⟨properties, apart, fun i hi => ?_⟩
  unfold ofDocument? at read
  split at read
  · next members =>
    obtain ⟨fields, known, read⟩ := Option.bind_eq_some_iff.mp read
    obtain ⟨id, -, read⟩ := Option.bind_eq_some_iff.mp read
    obtain ⟨nodeType, -, read⟩ := Option.bind_eq_some_iff.mp read
    obtain ⟨properties, -, read⟩ := Option.bind_eq_some_iff.mp read
    obtain ⟨inputs, listed, read⟩ := Option.bind_eq_some_iff.mp read
    obtain rfl := Option.some.inj read
    rcases Document.of_defaulted_eq_some listed with rfl | ⟨e, here, listed⟩
    · cases hi
    · obtain ⟨items, rfl, each⟩ := Document.of_list?_eq_some listed
      obtain ⟨e, he, read⟩ := each i hi
      exact InputDescriptor.proper_of_ofDocument?
        (Document.finite_arr_iff.mp (finite.of_fields? known _ here) e he) read
  · cases read

theorem NodeDescriptor.Proper.finite_toDocument {n : NodeDescriptor} (proper : n.Proper) :
    n.toJson.toDocument.Finite := by
  have inputs : ∀ m ∈ n.inputsMember, m.2.toDocument.Finite := by
    unfold inputsMember
    split
    · exact fun m hm => absurd hm List.not_mem_nil
    · simpa using fun i hi => (proper.inputs i hi).finite_toDocument
  simp only [toJson, members_eq, Json.finite_toDocument_obj, List.forall_mem_append]
  exact ⟨⟨by simp, fun m said => (proper.properties.each m said).finite_toDocument⟩, inputs⟩

/-- **A definition that was read is proper.** -/
theorem Definition.proper_of_ofDocument? {doc : Document} (finite : doc.Finite) {d : Definition}
    (read : ofDocument? doc = some d) : d.Proper := by
  obtain ⟨fields, known, read⟩ := Option.bind_eq_some_iff.mp read
  obtain ⟨nodes, listed, read⟩ := Option.bind_eq_some_iff.mp read
  obtain rfl := Option.some.inj read
  intro n hn
  rcases Document.of_defaulted_eq_some listed with rfl | ⟨e, here, listed⟩
  · cases hn
  · obtain ⟨items, rfl, each⟩ := Document.of_list?_eq_some listed
    obtain ⟨e, he, read⟩ := each n hn
    exact NodeDescriptor.proper_of_ofDocument?
      (Document.finite_arr_iff.mp (finite.of_fields? known _ here) e he) read

theorem Definition.Proper.finite_toDocument {d : Definition} (proper : d.Proper) :
    d.toJson.toDocument.Finite := by
  simpa [toJson] using fun n hn => (proper n hn).finite_toDocument

/-! ## Snapshots -/

namespace Snapshot

/-- A snapshot whose outputs can be read once they are written. -/
def Proper (s : Snapshot) : Prop := s.nodeOutputs.Proper

theorem Proper.empty : Proper {} := ⟨List.nodup_nil, nofun⟩

/-- **A snapshot that was read is proper.** -/
theorem proper_of_ofDocument? {d : Document} {s : Snapshot} (read : ofDocument? d = some s) :
    s.Proper := by
  obtain ⟨fields, -, read⟩ := Option.bind_eq_some_iff.mp read
  obtain ⟨outputs, given, read⟩ := Option.bind_eq_some_iff.mp read
  obtain ⟨name, -, read⟩ := Option.bind_eq_some_iff.mp read
  obtain ⟨order, -, read⟩ := Option.bind_eq_some_iff.mp read
  obtain rfl := Option.some.inj read
  show Fields.Proper outputs
  rcases Document.of_defaulted_eq_some given with rfl | ⟨e, -, given⟩
  · exact Proper.empty
  · rcases Document.of_orNull_eq_some given with rfl | read
    · exact Proper.empty
    · exact Document.proper_of_members? read

/-- **A proper snapshot is read as it was written.** -/
theorem ofDocument?_toJson {s : Snapshot} (proper : s.Proper) :
    ofDocument? s.toJson.toDocument = some s := by
  obtain ⟨outputs, name, order⟩ := s
  have read : (Json.obj outputs).toDocument.members? = some outputs :=
    Document.members?_toDocument proper
  cases order with
  | none =>
    cases name <;>
    · show ((Json.obj outputs).toDocument.members?).bind _ = _
      rw [read]
      rfl
  | some trace =>
    cases name <;>
    · show ((Json.obj outputs).toDocument.members?).bind (fun outputs =>
        ((Document.list? Document.text? (Json.arr (trace.map .str)).toDocument).map some).bind
          fun order => some (Snapshot.mk outputs _ order)) = _
      rw [read, Document.list?_text?]
      rfl

theorem Proper.finite_toDocument {s : Snapshot} (proper : s.Proper) :
    s.toJson.toDocument.Finite := by
  have outputs : (Json.obj s.nodeOutputs).toDocument.Finite :=
    Json.finite_toDocument_obj.mpr fun m hm => (proper.each m hm).finite_toDocument
  simp only [toJson, Json.finite_toDocument_obj, List.forall_mem_append, List.forall_mem_map]
  exact ⟨⟨by simpa using outputs, fun n _ => .str n⟩, fun o _ => by simp⟩

end Snapshot

/-! ## Finished runs -/

namespace HistoricalRun

/-- **The outputs of a finished run that was read** are proper. -/
theorem proper_of_ofDocument? {d : Document} {r : HistoricalRun} (read : ofDocument? d = some r) :
    r.finalState.Proper := by
  obtain ⟨fields, -, read⟩ := Option.bind_eq_some_iff.mp read
  obtain ⟨id, -, read⟩ := Option.bind_eq_some_iff.mp read
  obtain ⟨name, -, read⟩ := Option.bind_eq_some_iff.mp read
  obtain ⟨finalState, given, read⟩ := Option.bind_eq_some_iff.mp read
  obtain ⟨status, -, read⟩ := Option.bind_eq_some_iff.mp read
  obtain ⟨error, -, read⟩ := Option.bind_eq_some_iff.mp read
  obtain rfl := Option.some.inj read
  show finalState.Proper
  rcases Document.of_defaulted_eq_some given with rfl | ⟨e, -, given⟩
  · exact Snapshot.Proper.empty
  · rcases Document.of_orNull_eq_some given with rfl | read
    · exact Snapshot.Proper.empty
    · exact Snapshot.proper_of_ofDocument? read

/-- **A finished run is read as it was written**, if its outputs are proper. -/
theorem ofDocument?_toJson {r : HistoricalRun} (proper : r.finalState.Proper) :
    ofDocument? r.toJson.toDocument = some r := by
  obtain ⟨id, name, finalState, status, error⟩ := r
  have read : Snapshot.ofDocument? finalState.toJson.toDocument = some finalState :=
    Snapshot.ofDocument?_toJson proper
  cases id <;> cases status <;> cases error <;>
  · show (Snapshot.ofDocument? finalState.toJson.toDocument).bind _ = _
    rw [read]
    rfl

theorem finite_toDocument {r : HistoricalRun} (proper : r.finalState.Proper) :
    r.toJson.toDocument.Finite := by
  simp [toJson, proper.finite_toDocument]

end HistoricalRun

/-! ## All of them -/

/-- **Nothing of a record is lost when it is written**: it is read as it was, and whoever
writes what was read writes the same. -/
structure ReadsAgain {α : Type} (read : Document → Option α) (write : α → Json) (a : α) :
    Prop where
  /-- The record comes back. -/
  same : read (write a).toDocument = some a
  /-- It is written as before. -/
  settled : ∀ b, read (write a).toDocument = some b → write b = write a
  /-- What is written has finite numbers again. -/
  finite : (write a).toDocument.Finite

theorem ReadsAgain.of_same {α : Type} {read : Document → Option α} {write : α → Json} {a : α}
    (same : read (write a).toDocument = some a) (finite : (write a).toDocument.Finite) :
    ReadsAgain read write a :=
  ⟨same, fun _ back => congrArg write (Option.some.inj (back.symm.trans same)), finite⟩

theorem Definition.Proper.readsAgain {d : Definition} (proper : d.Proper) :
    ReadsAgain ofDocument? toJson d :=
  .of_same (ofDocument?_toJson proper) proper.finite_toDocument

theorem Snapshot.Proper.readsAgain {s : Snapshot} (proper : s.Proper) :
    ReadsAgain ofDocument? toJson s :=
  .of_same (ofDocument?_toJson proper) proper.finite_toDocument

theorem HistoricalRun.readsAgain {r : HistoricalRun} (proper : r.finalState.Proper) :
    ReadsAgain ofDocument? toJson r :=
  .of_same (ofDocument?_toJson proper) (finite_toDocument proper)

/-- **Records that were read are read again as they are** when they are written: the
definitions of workflows, the snapshots of runs, and the records of finished runs. Nodes,
inputs, properties and outputs keep their order. It does not matter how the document
spelled the record: with other members, with null for what is absent, or as an array. And
every proper record, whatever it holds, is read as it was written. -/
theorem records_read_again {doc : Document} (finite : doc.Finite) :
    (∀ d, Definition.ofDocument? doc = some d →
        ReadsAgain Definition.ofDocument? Definition.toJson d)
      ∧ (∀ s, Snapshot.ofDocument? doc = some s →
        ReadsAgain Snapshot.ofDocument? Snapshot.toJson s)
      ∧ (∀ r, HistoricalRun.ofDocument? doc = some r →
        ReadsAgain HistoricalRun.ofDocument? HistoricalRun.toJson r)
      ∧ (∀ d : Definition, d.Proper → ReadsAgain Definition.ofDocument? Definition.toJson d)
      ∧ (∀ s : Snapshot, s.Proper → ReadsAgain Snapshot.ofDocument? Snapshot.toJson s)
      ∧ ∀ r : HistoricalRun, r.finalState.Proper →
        ReadsAgain HistoricalRun.ofDocument? HistoricalRun.toJson r := by
  refine ⟨fun d read => ?_, fun s read => ?_, fun r read => ?_,
    fun _ => Definition.Proper.readsAgain, fun _ => Snapshot.Proper.readsAgain,
    fun _ => HistoricalRun.readsAgain⟩
  · exact (Definition.proper_of_ofDocument? finite read).readsAgain
  · exact (Snapshot.proper_of_ofDocument? read).readsAgain
  · exact HistoricalRun.readsAgain (HistoricalRun.proper_of_ofDocument? read)

/-- A definition that says more than anybody asks for: a node with outputs and a note,
one input without a value and one that is an array of its fields, and a node that says
that it has no inputs. -/
def talkativeText : Document :=
  .obj [("version", .num (.int 2)),
    ("nodes", .arr [
      .obj [("outputs", .arr [.str "response"]), ("type", .str "SimpleLLMNode"), ("id", .str "llm"),
        ("inputs", .arr [
          .obj [("name", .str "messages"), ("value", .null)],
          .arr [.str "user_text", .null, .obj [("b", .null), ("a", .bool true)]]]),
        ("note", .null)],
      .obj [("id", .str "in"), ("type", .str "InputNode"), ("inputs", .arr [])]])]

/-- What is kept of the definition that says more. -/
def talkative : Definition :=
  ⟨[{ id := "llm", nodeType := "SimpleLLMNode"
      properties := [("outputs", .arr [.str "response"]), ("note", .null)]
      inputs := [{ name := "messages" },
        { name := "user_text", value := some (.obj [("b", .null), ("a", .bool true)]) }] },
    { id := "in", nodeType := "InputNode" }]⟩

/-- A snapshot without outputs, which says so with nulls. -/
def emptyText : Document := .obj [("node_outputs", .null), ("execution_order", .null)]

/-- A snapshot with the outputs of three nodes, reported in another order than they ran. -/
def busyText : Document :=
  .obj [("host", .str "a"), ("execution_order", .arr [.str "in", .str "llm", .str "gate"]),
    ("node_outputs", .obj [
      ("llm", .obj [("response", .str "hi"), ("tokens", .num (.int 7))]),
      ("in", .arr [.bool true, .null]), ("gate", .null)]),
    ("workflow_name", .null)]

/-- What is kept of the snapshot with three outputs. -/
def busy : Snapshot where
  nodeOutputs := [("llm", .obj [("response", .str "hi"), ("tokens", .num (.int 7))]),
    ("in", .arr [.bool true, .null]), ("gate", .null)]
  executionOrder := some ["in", "llm", "gate"]

/-- The record of a finished run, with what is said about its end. -/
def finishedText (ending : List (String × Document)) : Document :=
  .obj ([("host", .str "a"), ("workflow_name", .str "loop")] ++ ending)

/-- What is kept of the record, if it ends with a snapshot. -/
def finished (finalState : Snapshot) : HistoricalRun := ⟨none, "loop", finalState, none, none⟩

/-- Members that nobody asked for and nulls in the place of what is absent come to no
harm, nor do the outputs. -/
theorem records_read_again_with_nulls :
    let snapshots : List (Document × Snapshot) := [(emptyText, {}), (busyText, busy)]
    let endings : List (List (String × Document) × Snapshot) :=
      [([], {}), ([("final_state", .null)], {}), ([("final_state", emptyText)], {}),
        ([("error", .null), ("final_state", busyText)], busy)]
    (talkativeText.Finite ∧ Definition.ofDocument? talkativeText = some talkative
        ∧ Definition.ofDocument? talkative.toJson.toDocument = some talkative)
      ∧ (∀ m ∈ snapshots, m.1.Finite ∧ Snapshot.ofDocument? m.1 = some m.2
        ∧ Snapshot.ofDocument? m.2.toJson.toDocument = some m.2)
      ∧ ∀ m ∈ endings, (finishedText m.1).Finite
        ∧ HistoricalRun.ofDocument? (finishedText m.1) = some (finished m.2)
        ∧ HistoricalRun.ofDocument? (finished m.2).toJson.toDocument = some (finished m.2) := by
  intro snapshots endings
  have definition : talkativeText.Finite := by simp [talkativeText]
  have empty : emptyText.Finite := by simp [emptyText]
  have busyFinite : busyText.Finite := by simp [busyText]
  refine ⟨⟨definition, rfl, ((records_read_again definition).1 talkative rfl).same⟩,
    fun m hm => ?_, fun m hm => ?_⟩
  · have read : m.1.Finite ∧ Snapshot.ofDocument? m.1 = some m.2 := by
      simp only [snapshots, List.mem_cons, List.not_mem_nil, or_false] at hm
      rcases hm with rfl | rfl
      · exact ⟨empty, rfl⟩
      · exact ⟨busyFinite, rfl⟩
    exact ⟨read.1, read.2, ((records_read_again read.1).2.1 m.2 read.2).same⟩
  · have read : (finishedText m.1).Finite
        ∧ HistoricalRun.ofDocument? (finishedText m.1) = some (finished m.2) := by
      simp only [endings, List.mem_cons, List.not_mem_nil, or_false] at hm
      rcases hm with rfl | rfl | rfl | rfl <;>
        exact ⟨by simp [finishedText, empty, busyFinite], rfl⟩
    exact ⟨read.1, read.2, ((records_read_again read.1).2.2.1 _ read.2).same⟩

end AgentWorkflow
