import AgentWorkflow.Json.Record

/-!
# Values that can be read

Not every value of the type `Json` is one that a document stands for: the type
admits numbers that are not finite, and objects with two members of one key.
*Proper* values are without either, all the way down (`Json.Proper`). They are
exactly the values of documents. What is read from a document is proper
(`Document.proper_of_toJson?`), and a proper value that is written is read as
itself (`Json.Proper.toJson?_toDocument`).

The members of an object come into being in three ways: they are read, set, or
moved when another one is removed. None of them puts a key there twice.
-/

namespace AgentWorkflow

/-! ## Members -/

namespace Fields

variable {fs : Fields} {key : String} {value : Json} {m : String × Json}

theorem set_of_notMem (fs : Fields) (new : key ∉ fs.keys) (value : Json) :
    fs.set key value = fs ++ [(key, value)] := by
  induction fs with
  | nil => rfl
  | cons m fs ih =>
    obtain ⟨k, v⟩ := m
    have apart : k ≠ key := fun same => new (same ▸ List.mem_cons_self)
    rw [set, if_neg apart, ih fun later => new (List.mem_cons_of_mem k later)]
    rfl

theorem keys_set_of_mem (fs : Fields) (old : key ∈ fs.keys) (value : Json) :
    (fs.set key value).keys = fs.keys := by
  induction fs with
  | nil => cases old
  | cons m fs ih =>
    obtain ⟨k, v⟩ := m
    by_cases here : k = key
    · rw [set, if_pos here, ← here]
      rfl
    · rw [set, if_neg here]
      have later : key ∈ keys fs := (List.mem_cons.mp old).resolve_left (Ne.symm here)
      exact congrArg (k :: ·) (ih later)

theorem mem_set (h : m ∈ fs.set key value) : m ∈ fs ∨ m = (key, value) := by
  induction fs with
  | nil => exact Or.inr (List.mem_singleton.mp h)
  | cons n fs ih =>
    obtain ⟨k, v⟩ := n
    unfold set at h
    split at h
    · rcases List.mem_cons.mp h with new | later
      · exact Or.inr new
      · exact Or.inl (List.mem_cons_of_mem _ later)
    · rcases List.mem_cons.mp h with first | later
      · exact Or.inl (List.mem_cons.mpr (Or.inl first))
      · exact (ih later).imp_left (List.mem_cons_of_mem _)

theorem nodup_keys_set (distinct : fs.keys.Nodup) (key : String) (value : Json) :
    (fs.set key value).keys.Nodup := by
  by_cases old : key ∈ fs.keys
  · rw [fs.keys_set_of_mem old]
    exact distinct
  · rw [fs.set_of_notMem old, keys, List.map_append, List.nodup_append]
    refine ⟨distinct, by simp, ?_⟩
    rintro k hk k' hk' rfl
    obtain rfl : k = key := List.mem_singleton.mp hk'
    exact old hk

/-- **Removing a key** leaves the other members, in whatever order. -/
theorem swapRemove_perm (fs : Fields) (key : String) :
    (fs.swapRemove key).Perm (fs.eraseP fun m => m.1 = key) := by
  fun_induction swapRemove fs key with
  | case1 => exact .nil
  | case2 v rest key empty =>
    rw [List.getLast?_eq_none_iff] at empty
    subst empty
    show List.Perm [] (List.eraseP _ [(key, v)])
    rw [List.eraseP_cons, decide_eq_true rfl]
    exact .nil
  | case3 v rest key last ends =>
    rw [List.eraseP_cons, decide_eq_true rfl]
    -- the last member comes to the front
    obtain ⟨front, rfl⟩ := List.getLast?_eq_some_iff.mp ends
    rw [List.dropLast_concat]
    exact (List.perm_append_singleton last front).symm
  | case4 k v rest key apart ih =>
    rw [List.eraseP_cons_of_neg (by simpa using apart)]
    exact ih.cons _

theorem nodup_keys_swapRemove (distinct : fs.keys.Nodup) (key : String) :
    (fs.swapRemove key).keys.Nodup :=
  ((fs.swapRemove_perm key).map Prod.fst).nodup_iff.mpr
    (distinct.sublist (List.eraseP_sublist.map Prod.fst))

theorem notMem_keys_swapRemove (distinct : fs.keys.Nodup) (key : String) :
    key ∉ (fs.swapRemove key).keys := by
  suffices key ∉ keys (fs.eraseP fun m => m.1 = key) from fun there =>
    this (((fs.swapRemove_perm key).map Prod.fst).mem_iff.mp there)
  induction fs with
  | nil => exact List.not_mem_nil
  | cons m fs ih =>
    obtain ⟨k, v⟩ := m
    obtain ⟨once, distinct⟩ := List.nodup_cons.mp distinct
    by_cases here : k = key
    · rw [List.eraseP_cons_of_pos (by simpa using here), ← here]
      exact once
    · rw [List.eraseP_cons_of_neg (by simpa using here)]
      exact List.not_mem_cons_of_ne_of_not_mem (Ne.symm here) (ih distinct)

theorem mem_of_mem_swapRemove (h : m ∈ fs.swapRemove key) : m ∈ fs :=
  List.mem_of_mem_eraseP ((fs.swapRemove_perm key).mem_iff.mp h)

theorem nodup_keys_ofMembers (members : List (String × Json)) : (ofMembers members).keys.Nodup :=
  List.foldlRecOn (motive := fun fs : Fields => fs.keys.Nodup) members _ List.nodup_nil
    fun _ distinct m _ => nodup_keys_set distinct m.1 m.2

theorem mem_of_mem_ofMembers {members : List (String × Json)} (h : m ∈ ofMembers members) :
    m ∈ members := by
  have each : ∀ m ∈ ofMembers members, m ∈ members :=
    List.foldlRecOn (motive := fun fs : Fields => ∀ m ∈ fs, m ∈ members) members _ nofun
      fun fs before m hm n hn => by
        rcases mem_set hn with old | rfl
        · exact before n old
        · exact hm
  exact each m h

/-- **Members without a key twice** are read as they are. -/
theorem ofMembers_of_nodup {members : List (String × Json)}
    (distinct : (members.map Prod.fst).Nodup) : ofMembers members = members := by
  -- the fold has read a beginning of the members when it meets the next one
  suffices ∀ (read : Fields) (rest : List (String × Json)), ((read ++ rest).map Prod.fst).Nodup →
      rest.foldl (fun fs m => set fs m.1 m.2) read = read ++ rest from this [] members distinct
  intro read rest
  induction rest generalizing read with
  | nil => exact fun _ => (List.append_nil read).symm
  | cons m rest ih =>
    intro distinct
    have new : m.1 ∉ read.keys := by
      intro old
      rw [List.map_append, List.nodup_append] at distinct
      exact distinct.2.2 m.1 old m.1 List.mem_cons_self rfl
    rw [List.foldl_cons, read.set_of_notMem new, ih _ (by simpa using distinct), List.append_assoc]
    rfl

theorem get?_eq_none_iff : fs.get? key = none ↔ key ∉ fs.keys := by
  unfold get?
  induction fs with
  | nil => exact iff_of_true rfl nofun
  | cons m fs ih =>
    obtain ⟨k, v⟩ := m
    rw [List.lookup_cons, keys, List.map_cons, List.mem_cons, not_or]
    by_cases here : key = k
    · rw [beq_iff_eq.mpr here]
      exact iff_of_false nofun fun h => h.1 here
    · rw [beq_eq_false_iff_ne.mpr here]
      exact ih.trans (and_iff_right here).symm

end Fields

/-! ## Proper values -/

/-- **A value that a document can stand for**: its numbers are finite, and no
object has a key twice. -/
inductive Json.Proper : Json → Prop where
  | null : Proper .null
  | bool (b : Bool) : Proper (.bool b)
  | int (n : Int) : Proper (.num (.int n))
  | float {x : Float} (finite : x.isFinite = true) : Proper (.num (.float x))
  | str (s : String) : Proper (.str s)
  | arr {items : List Json} (each : ∀ j ∈ items, j.Proper) : Proper (.arr items)
  | obj {members : Fields} (distinct : members.keys.Nodup)
      (each : ∀ m ∈ members, m.2.Proper) : Proper (.obj members)

/-- The members of a proper object. -/
structure Fields.Proper (fs : Fields) : Prop where
  /-- No key is there twice. -/
  distinct : fs.keys.Nodup
  /-- The values are proper. -/
  each : ∀ m ∈ fs, m.2.Proper

namespace Document

mutual

/-- **What is read is proper.** -/
theorem proper_of_toJson? : ∀ (d : Document) {j : Json}, d.toJson? = some j → j.Proper
  | null, _, read => Option.some.inj read ▸ .null
  | bool b, _, read => Option.some.inj read ▸ .bool b
  | num (.int n), _, read => Option.some.inj read ▸ .int n
  | num (.float x), j, read => by
    obtain rfl := Option.some.inj read
    split
    · next finite => exact .float finite
    · exact .null
  | str s, _, read => Option.some.inj read ▸ .str s
  | arr items, j, read => by
    rw [toJson?] at read
    obtain ⟨js, each, rfl⟩ := Option.map_eq_some_iff.mp read
    exact .arr (proper_of_itemsToJson? items each)
  | obj members, j, read => by
    rw [toJson?] at read
    obtain ⟨ms, each, rfl⟩ := Option.map_eq_some_iff.mp read
    exact .obj (Fields.nodup_keys_ofMembers ms) fun m hm =>
      proper_of_membersToJson? members each m (Fields.mem_of_mem_ofMembers hm)
  | unusable, _, read => nomatch read

theorem proper_of_itemsToJson? : ∀ (ds : List Document) {js : List Json},
    itemsToJson? ds = some js → ∀ j ∈ js, j.Proper
  | [], _, read => by
    obtain rfl := Option.some.inj read
    exact nofun
  | d :: ds, js, read => by
    rw [itemsToJson?] at read
    split at read
    · next j js' first rest =>
      obtain rfl := Option.some.inj read
      intro k hk
      rcases List.mem_cons.mp hk with rfl | later
      · exact proper_of_toJson? d first
      · exact proper_of_itemsToJson? ds rest k later
    · cases read

theorem proper_of_membersToJson? : ∀ (ds : List (String × Document)) {ms : List (String × Json)},
    membersToJson? ds = some ms → ∀ m ∈ ms, m.2.Proper
  | [], _, read => by
    obtain rfl := Option.some.inj read
    exact nofun
  | (k, d) :: ds, ms, read => by
    rw [membersToJson?] at read
    split at read
    · next j ms' first rest =>
      obtain rfl := Option.some.inj read
      intro m hm
      rcases List.mem_cons.mp hm with rfl | later
      · exact proper_of_toJson? d first
      · exact proper_of_membersToJson? ds rest m later
    · cases read

end

theorem map_fst_membersToJson? {ds : List (String × Document)} {ms : List (String × Json)}
    (read : membersToJson? ds = some ms) : ms.map Prod.fst = ds.map Prod.fst := by
  induction ds generalizing ms with
  | nil =>
    obtain rfl := Option.some.inj read
    rfl
  | cons d ds ih =>
    obtain ⟨k, d⟩ := d
    rw [membersToJson?] at read
    split at read
    · next j ms' first rest =>
      obtain rfl := Option.some.inj read
      exact congrArg (k :: ·) (ih rest)
    · cases read

end Document

namespace Json

theorem itemsToDocument_eq_map (items : List Json) :
    itemsToDocument items = items.map toDocument := by
  induction items with
  | nil => rfl
  | cons j items ih => rw [itemsToDocument, ih, List.map_cons]

theorem membersToDocument_eq_map (members : List (String × Json)) :
    membersToDocument members = members.map fun m => (m.1, m.2.toDocument) := by
  induction members with
  | nil => rfl
  | cons m members ih => rw [membersToDocument, ih, List.map_cons]

theorem itemsToJson?_map {items : List Json}
    (each : ∀ j ∈ items, j.toDocument.toJson? = some j) :
    Document.itemsToJson? (items.map toDocument) = some items := by
  induction items with
  | nil => rfl
  | cons j items ih =>
    rw [List.map_cons, Document.itemsToJson?, each j List.mem_cons_self,
      ih fun k hk => each k (List.mem_cons_of_mem j hk)]

theorem membersToJson?_map {members : List (String × Json)}
    (each : ∀ m ∈ members, m.2.toDocument.toJson? = some m.2) :
    Document.membersToJson? (members.map fun m => (m.1, m.2.toDocument)) = some members := by
  induction members with
  | nil => rfl
  | cons m members ih =>
    rw [List.map_cons, Document.membersToJson?, each m List.mem_cons_self,
      ih fun k hk => each k (List.mem_cons_of_mem m hk)]

/-- **A proper value that is written is read as itself.** -/
theorem Proper.toJson?_toDocument {j : Json} (proper : j.Proper) :
    j.toDocument.toJson? = some j := by
  induction proper with
  | null | bool | int | str => rfl
  | float finite => rw [toDocument, Document.toJson?, if_pos finite]
  | arr _ each =>
    rw [toDocument, itemsToDocument_eq_map, Document.toJson?, itemsToJson?_map each]
    rfl
  | obj distinct _ each =>
    rw [toDocument, membersToDocument_eq_map, Document.toJson?, membersToJson?_map each]
    exact congrArg (some ∘ Json.obj) (Fields.ofMembers_of_nodup distinct)

/-- **Proper values are the values of documents.** -/
theorem proper_iff {j : Json} : j.Proper ↔ ∃ d : Document, d.toJson? = some j :=
  ⟨fun proper => ⟨j.toDocument, proper.toJson?_toDocument⟩,
    fun ⟨d, read⟩ => d.proper_of_toJson? read⟩

end Json

end AgentWorkflow
