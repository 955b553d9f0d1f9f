import AgentWorkflow.Definition.Json
import AgentWorkflow.Proofs.ProperValues

/-!
# Definitions that are written

A definition is written as a value and read from a document. Reading undoes
writing for definitions that are *proper* (`Definition.Proper`): the values in
them are, and no node has a property that goes by the name of one of its
structural members. The last condition is the one that matters. A node is
written flat, its properties among its other members, so a property of such a
name is met by the reader as if it were the member. If that is the id or the type
it is met a second time, and nothing can be read any more
(`Definition.ofDocument?_of_clash`).

What was read is always proper as far as the properties go
(`NodeDescriptor.of_ofDocument?`), because the reader has taken the structural
members out.
-/

namespace AgentWorkflow

/-! ## Reading what was written -/

namespace Document

/-- The known members of an object that was written, if none of them is there
twice. -/
theorem fields?_toDocument {names : List String} {members known : List (String × Json)}
    (filtered : members.filter (fun m => names.contains m.1) = known)
    (distinct : (known.map Prod.fst).Nodup) :
    (Json.obj members).toDocument.fields? names
      = some (known.map fun m => (m.1, m.2.toDocument)) := by
  rw [Json.toDocument, Json.membersToDocument_eq_map, fields?, List.filter_map]
  subst filtered
  exact if_pos (by rwa [List.map_map])

/-- A value that was written, as an optional field: null would stand for its
absence. -/
theorem optional_toDocument {α : Type} {fields : List (String × Document)} {name : String}
    {v : Json} (found : fields.lookup name = some v.toDocument) (present : v ≠ .null)
    (read : Document → Option α) : optional fields name read = (read v.toDocument).map some := by
  unfold optional
  rw [found]
  cases v with
  | null => exact absurd rfl present
  | _ => rfl

theorem fields?_of_repeated {names : List String} {members : List (String × Document)}
    (repeated : ¬((members.filter fun m => names.contains m.1).map Prod.fst).Nodup) :
    (obj members).fields? names = none := if_neg repeated

/-- **A list is read as itself** if its elements are. -/
theorem list?_map {α : Type} {read : Document → Option α} {write : α → Document} {as : List α}
    (each : ∀ a ∈ as, read (write a) = some a) : list? read (.arr (as.map write)) = some as := by
  show (as.map write).mapM read = some as
  induction as with
  | nil => rfl
  | cons a as ih =>
    rw [List.map_cons, List.mapM_cons, each a List.mem_cons_self,
      ih fun b hb => each b (List.mem_cons_of_mem a hb)]
    rfl

theorem of_list?_eq_some {α : Type} {read : Document → Option α} {d : Document} {as : List α}
    (h : list? read d = some as) :
    ∃ items, d = .arr items ∧ ∀ a ∈ as, ∃ e ∈ items, read e = some a := by
  cases d with
  | arr items =>
    refine ⟨items, rfl, ?_⟩
    replace h : items.mapM read = some as := h
    induction items generalizing as with
    | nil =>
      obtain rfl : [] = as := Option.some.inj h
      exact nofun
    | cons e items ih =>
      rw [List.mapM_cons] at h
      obtain ⟨a, first, rest⟩ := Option.bind_eq_some_iff.mp h
      obtain ⟨as', later, same⟩ := Option.bind_eq_some_iff.mp rest
      obtain rfl : a :: as' = as := Option.some.inj same
      intro b hb
      rcases List.mem_cons.mp hb with rfl | hb
      · exact ⟨e, List.mem_cons_self, first⟩
      · obtain ⟨e', he', here⟩ := ih later b hb
        exact ⟨e', List.mem_cons_of_mem e he', here⟩
  | _ => cases h

/-- **A list cannot be read** if one of its elements cannot. -/
theorem list?_map_eq_none {α β : Type} {read : Document → Option α} {write : β → Document}
    {bs : List β} {b : β} (hb : b ∈ bs) (fails : read (write b) = none) :
    list? read (.arr (bs.map write)) = none := by
  show (bs.map write).mapM read = none
  induction bs with
  | nil => cases hb
  | cons c bs ih =>
    rw [List.map_cons, List.mapM_cons]
    rcases List.mem_cons.mp hb with rfl | later
    · rw [fails]
      rfl
    · rw [ih later]
      cases read (write c) <;> rfl

end Document

/-! ## Proper definitions -/

/-- The value of an input can be read, and it is there: null would stand for no
value. -/
def InputDescriptor.Proper (i : InputDescriptor) : Prop :=
  ∀ v, i.value = some v → v.Proper ∧ v ≠ .null

/-- **A node that can be read once it is written.** -/
structure NodeDescriptor.Proper (n : NodeDescriptor) : Prop where
  /-- The properties can be read. -/
  properties : n.properties.Proper
  /-- None of them goes by the name of a structural member. -/
  apart : ∀ key ∈ structuralKeys, key ∉ n.properties.keys
  /-- The inputs can be read. -/
  inputs : ∀ i ∈ n.inputs, i.Proper

/-- A definition all of whose nodes can be read once they are written. -/
def Definition.Proper (d : Definition) : Prop := ∀ n ∈ d.nodes, n.Proper

namespace Connection

theorem ofDocument?_toJson (c : Connection) : ofDocument? c.toJson.toDocument = some c := rfl

end Connection

namespace InputDescriptor

/-- **An input is read as it was written**, if its value is. -/
theorem ofDocument?_toJson {i : InputDescriptor} (proper : i.Proper) :
    ofDocument? i.toJson.toDocument = some i := by
  obtain ⟨name, connection, value⟩ := i
  cases value with
  | none => cases connection <;> rfl
  | some v =>
    obtain ⟨readable, present⟩ := proper v rfl
    have value {fields : List (String × Document)}
        (found : fields.lookup "value" = some v.toDocument) :
        Document.optional fields "value" Document.toJson? = some (some v) := by
      rw [Document.optional_toDocument found present, readable.toJson?_toDocument]
      rfl
    cases connection with
    | none =>
      show (Document.optional [("name", .str name), ("value", v.toDocument)] "value"
        Document.toJson?).bind (fun value => some (InputDescriptor.mk name none value)) = _
      rw [value rfl]
      rfl
    | some c =>
      show (Document.optional [("name", .str name), ("connection", c.toJson.toDocument),
        ("value", v.toDocument)] "value" Document.toJson?).bind
          (fun value => some (InputDescriptor.mk name (some c) value)) = _
      rw [value rfl]
      rfl

end InputDescriptor

namespace NodeDescriptor

variable {n : NodeDescriptor}

/-- The inputs of a node as a member, which is left out if there are none. -/
def inputsMember (n : NodeDescriptor) : List (String × Json) :=
  if n.inputs.isEmpty then [] else [("inputs", .arr (n.inputs.map InputDescriptor.toJson))]

theorem members_eq (n : NodeDescriptor) :
    n.members = [("id", .str n.id), ("type", .str n.nodeType)] ++ n.properties ++ n.inputsMember :=
  rfl

/-- **The structural members of a node** are found among its members, with
whatever properties go by their names. -/
theorem filter_members (n : NodeDescriptor) :
    n.members.filter (fun m => structuralKeys.contains m.1)
      = [("id", .str n.id), ("type", .str n.nodeType)]
        ++ n.properties.filter (fun m => structuralKeys.contains m.1) ++ n.inputsMember := by
  have inputs : n.inputsMember.filter (fun m => structuralKeys.contains m.1) = n.inputsMember := by
    unfold inputsMember
    split <;> rfl
  rw [members_eq, List.filter_append, List.filter_append, inputs]
  rfl

theorem filter_members_not (n : NodeDescriptor) :
    n.members.filter (fun m => !structuralKeys.contains m.1)
      = n.properties.filter fun m => !structuralKeys.contains m.1 := by
  have inputs : n.inputsMember.filter (fun m => !structuralKeys.contains m.1) = [] := by
    unfold inputsMember
    split <;> rfl
  rw [members_eq, List.filter_append, List.filter_append, inputs, List.append_nil]
  rfl

/-- **The properties of a node that was read** are proper, and none of them goes
by the name of a structural member. -/
theorem of_ofDocument? {d : Document} (read : ofDocument? d = some n) :
    n.properties.Proper ∧ ∀ key ∈ structuralKeys, key ∉ n.properties.keys := by
  unfold ofDocument? at read
  split at read
  · next members =>
    obtain ⟨fs, -, read⟩ := Option.bind_eq_some_iff.mp read
    obtain ⟨id, -, read⟩ := Option.bind_eq_some_iff.mp read
    obtain ⟨nodeType, -, read⟩ := Option.bind_eq_some_iff.mp read
    obtain ⟨properties, values, read⟩ := Option.bind_eq_some_iff.mp read
    obtain ⟨inputs, -, read⟩ := Option.bind_eq_some_iff.mp read
    obtain rfl := Option.some.inj read
    refine ⟨⟨Fields.nodup_keys_ofMembers properties, fun m hm => ?_⟩, fun key structural here => ?_⟩
    · exact Document.proper_of_membersToJson? _ values m (Fields.mem_of_mem_ofMembers hm)
    · obtain ⟨m, hm, named⟩ := List.mem_map.mp here
      have written : key ∈ properties.map Prod.fst :=
        named ▸ List.mem_map.mpr ⟨m, Fields.mem_of_mem_ofMembers hm, rfl⟩
      rw [Document.map_fst_membersToJson? values] at written
      obtain ⟨d, hd, rfl⟩ := List.mem_map.mp written
      have kept := (List.mem_filter.mp hd).2
      rw [List.contains_iff_mem.mpr structural] at kept
      cases kept
  · cases read

theorem defaulted_inputsMember (proper : ∀ i ∈ n.inputs, i.Proper) (id nodeType : Document) :
    Document.defaulted ([("id", id), ("type", nodeType)]
        ++ n.inputsMember.map fun m => (m.1, m.2.toDocument)) "inputs" []
      (Document.list? InputDescriptor.ofDocument?) = some n.inputs := by
  unfold inputsMember
  split
  · next empty =>
    rw [List.isEmpty_iff.mp empty]
    rfl
  · show Document.list? InputDescriptor.ofDocument?
      (.arr (Json.itemsToDocument (n.inputs.map InputDescriptor.toJson))) = some n.inputs
    rw [Json.itemsToDocument_eq_map, List.map_map]
    exact Document.list?_map fun i hi => InputDescriptor.ofDocument?_toJson (proper i hi)

/-- **A proper node is read as it was written.** -/
theorem ofDocument?_toJson (proper : n.Proper) : ofDocument? n.toJson.toDocument = some n := by
  have unnamed : ∀ m ∈ n.properties, structuralKeys.contains m.1 = false := fun m hm =>
    Bool.eq_false_iff.mpr fun structural =>
      proper.apart m.1 (List.contains_iff_mem.mp structural) (List.mem_map.mpr ⟨m, hm, rfl⟩)
  have known : n.members.filter (fun m => structuralKeys.contains m.1)
      = [("id", .str n.id), ("type", .str n.nodeType)] ++ n.inputsMember := by
    rw [filter_members, List.filter_eq_nil_iff.mpr fun m hm h => by
      rw [unnamed m hm] at h; cases h]
    rfl
  have said : n.members.filter (fun m => !structuralKeys.contains m.1) = n.properties := by
    rw [filter_members_not]
    exact List.filter_eq_self.mpr fun m hm => by rw [unnamed m hm]; rfl
  have distinct : (([("id", Json.str n.id), ("type", Json.str n.nodeType)] ++ n.inputsMember).map
      Prod.fst).Nodup := by
    unfold inputsMember
    split <;> simp
  have fields := Document.fields?_toDocument known distinct
  have properties : Document.membersToJson?
      ((n.members.map fun m => (m.1, m.2.toDocument)).filter fun m => !structuralKeys.contains m.1)
      = some n.properties := by
    rw [List.filter_map]
    show Document.membersToJson?
      ((n.members.filter fun m => !structuralKeys.contains m.1).map _) = _
    rw [said]
    exact Json.membersToJson?_map fun m hm => (proper.properties.each m hm).toJson?_toDocument
  rw [Json.toDocument, Json.membersToDocument_eq_map] at fields
  rw [toJson, Json.toDocument, Json.membersToDocument_eq_map, ofDocument?, fields, properties]
  show (Document.defaulted ([("id", .str n.id), ("type", .str n.nodeType)]
      ++ n.inputsMember.map fun m => (m.1, m.2.toDocument)) "inputs" []
    (Document.list? InputDescriptor.ofDocument?)).bind (fun inputs =>
      some (NodeDescriptor.mk n.id n.nodeType (Fields.ofMembers n.properties) inputs)) = some n
  rw [defaulted_inputsMember proper.inputs, Fields.ofMembers_of_nodup proper.properties.distinct]
  rfl

/-- **A node cannot be read** if a property goes by the name of its id or its
type. -/
theorem ofDocument?_of_clash {key : String} (named : key ∈ ["id", "type"])
    (clash : key ∈ n.properties.keys) : ofDocument? n.toJson.toDocument = none := by
  have structural : structuralKeys.contains key = true := by
    rcases List.mem_cons.mp named with rfl | rest
    · decide
    · obtain rfl := List.mem_singleton.mp rest
      decide
  obtain ⟨m, hm, rfl⟩ := List.mem_map.mp clash
  have met : m.1 ∈ (n.properties.filter fun m => structuralKeys.contains m.1).map Prod.fst :=
    List.mem_map.mpr ⟨m, List.mem_filter.mpr ⟨hm, structural⟩, rfl⟩
  have keys : ((n.members.map fun m => (m.1, m.2.toDocument)).filter fun m =>
      structuralKeys.contains m.1).map Prod.fst
      = ["id", "type"] ++ ((n.properties.filter fun m => structuralKeys.contains m.1).map Prod.fst
        ++ n.inputsMember.map Prod.fst) := by
    rw [List.filter_map, List.map_map]
    show (n.members.filter fun m => structuralKeys.contains m.1).map Prod.fst = _
    rw [filter_members, List.map_append, List.map_append, List.append_assoc]
    rfl
  -- the structural member comes first, and the property repeats its key
  have repeated : ¬(((n.members.map fun m => (m.1, m.2.toDocument)).filter fun m =>
      structuralKeys.contains m.1).map Prod.fst).Nodup := by
    rw [keys, List.nodup_append]
    exact fun distinct =>
      distinct.2.2 m.1 named m.1 (List.mem_append_left _ met) rfl
  rw [toJson, Json.toDocument, Json.membersToDocument_eq_map, ofDocument?,
    Document.fields?_of_repeated repeated]
  rfl

end NodeDescriptor

namespace Definition

variable {d : Definition}

theorem ofDocument?_toJson_eq (d : Definition) :
    ofDocument? d.toJson.toDocument
      = (Document.list? NodeDescriptor.ofDocument?
          (.arr (d.nodes.map fun n => n.toJson.toDocument))).bind fun nodes => some ⟨nodes⟩ := by
  show (Document.list? NodeDescriptor.ofDocument?
    (.arr (Json.itemsToDocument (d.nodes.map NodeDescriptor.toJson)))).bind _ = _
  rw [Json.itemsToDocument_eq_map, List.map_map]
  rfl

/-- **A proper definition is read as it was written.** -/
theorem ofDocument?_toJson (proper : d.Proper) : ofDocument? d.toJson.toDocument = some d := by
  have nodes : Document.list? NodeDescriptor.ofDocument?
      (.arr (d.nodes.map fun n => n.toJson.toDocument)) = some d.nodes :=
    Document.list?_map fun n hn => NodeDescriptor.ofDocument?_toJson (proper n hn)
  rw [ofDocument?_toJson_eq, nodes]
  rfl

/-- **The properties in a definition that was read** are proper, and none of them
goes by the name of a structural member. -/
theorem of_ofDocument? {doc : Document} (read : ofDocument? doc = some d) :
    ∀ n ∈ d.nodes, n.properties.Proper
      ∧ ∀ key ∈ NodeDescriptor.structuralKeys, key ∉ n.properties.keys := by
  obtain ⟨fs, -, read⟩ := Option.bind_eq_some_iff.mp read
  obtain ⟨nodes, listed, same⟩ := Option.bind_eq_some_iff.mp read
  obtain rfl := Option.some.inj same
  unfold Document.defaulted at listed
  split at listed
  · obtain rfl := Option.some.inj listed
    exact nofun
  · intro n hn
    obtain ⟨items, -, each⟩ := Document.of_list?_eq_some listed
    obtain ⟨e, -, here⟩ := each n hn
    exact NodeDescriptor.of_ofDocument? here

/-- **A definition cannot be read** if a property of some node goes by the name of
the id or the type. -/
theorem ofDocument?_of_clash {n : NodeDescriptor} {key : String} (hn : n ∈ d.nodes)
    (named : key ∈ ["id", "type"]) (clash : key ∈ n.properties.keys) :
    ofDocument? d.toJson.toDocument = none := by
  have nodes : Document.list? NodeDescriptor.ofDocument?
      (.arr (d.nodes.map fun n => n.toJson.toDocument)) = none :=
    Document.list?_map_eq_none hn (NodeDescriptor.ofDocument?_of_clash named clash)
  rw [ofDocument?_toJson_eq, nodes]
  rfl

end Definition

end AgentWorkflow
