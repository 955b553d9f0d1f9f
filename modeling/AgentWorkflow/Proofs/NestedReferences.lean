import AgentWorkflow.Reference
import Mathlib.Data.List.Induction

/-!
# Where the references of a value are

A connection may be named anywhere inside a value, under keys and in arrays, beside
other data and inside other references. This module says which of the objects that
look like a reference the search takes for one, and in which order.

**Places.** A place is a path, the numbers of the children that lead to it. Paths in
lexicographic order are places in document order: a value comes before what is inside
it, and all that is inside a child comes before the next child. Nothing in this refers
to how the search goes about it.

**Which references.** A reference that lies inside another one is not looked at, so
those that count are the outermost ones, down to sixty-four levels below the value. On
the level below that nothing is searched any more, but the member `connection` of an
object is looked at together with that object, so a reference there still counts
(`Json.references_are_outermost`). The induction goes level by level, and that
exception is why a child is described together with its key
(`Json.inDocumentOrder_inChild`): its key decides whether it is seen without a level to
spare.
-/

namespace AgentWorkflow

namespace Json

/-! ## Places -/

/-- **The children of a value**, in order, each with its key if it is a member of an
object. -/
def children : Json → List (Option String × Json)
  | .arr items => items.map fun item => (none, item)
  | .obj members => members.map fun m => (some m.1, m.2)
  | _ => []

/-- **The value at a place**: at each step a path tells the number of a child. -/
def at? (v : Json) : List Nat → Option Json
  | [] => some v
  | i :: path => v.children[i]?.bind fun child => child.2.at? path

/-- **The place is the member of a key** of the object around it. -/
def IsMember (v : Json) (key : String) (path : List Nat) : Prop :=
  ∃ around i members value, path = around ++ [i] ∧ v.at? around = some (.obj members)
    ∧ members[i]? = some (key, value)

/-- **A value refers** to an output of a node: it is an object that names both as
texts. -/
def Refers (v : Json) (c : Connection) : Prop :=
  ∃ members, v = .obj members ∧ Fields.get? members "from_node" = some (.str c.fromNode)
    ∧ Fields.get? members "from_output" = some (.str c.fromOutput)

/-- The value at a place refers to an output of a node. -/
def RefersAt (v : Json) (path : List Nat) (c : Connection) : Prop :=
  ∃ value, v.at? path = some value ∧ value.Refers c

/-- **No reference lies around the place.** -/
def Outermost (v : Json) (path : List Nat) : Prop :=
  ∀ around, around <+: path → around ≠ path → ∀ c, ¬v.RefersAt around c

/-- **A reference that is found on so many levels.** The member `connection` of an
object is seen from the level of that object. -/
structure Found (v : Json) (levels : Nat) (path : List Nat) (c : Connection) : Prop where
  /-- It is a reference. -/
  refers : v.RefersAt path c
  /-- It does not lie inside another one. -/
  outermost : v.Outermost path
  /-- It is on one of the levels, or seen from the last one. -/
  near : path.length < levels ∨ path.length = levels ∧ v.IsMember "connection" path

variable {v : Json} {key : String} {path : List Nat} {c : Connection} {i levels : Nat}
  {child : Option String × Json}

/-! ## One step down -/

theorem exists_member_iff :
    (∃ members value, v = .obj members ∧ members[i]? = some (key, value))
      ↔ ∃ value, v.children[i]? = some (some key, value) := by
  cases v <;> simp [children]

theorem not_isMember_nil : ¬v.IsMember key [] := by
  rintro ⟨around, i, _, _, split, -⟩
  exact List.append_ne_nil_of_right_ne_nil around (List.cons_ne_nil i []) split.symm

/-- A place inside a child is a member of the child itself, or of something in it. -/
theorem isMember_cons_iff (here : v.children[i]? = some child) :
    v.IsMember key (i :: path) ↔ (path = [] ∧ child.1 = some key) ∨ child.2.IsMember key path := by
  constructor
  · rintro ⟨around, j, members, value, split, object, member⟩
    cases around with
    | nil =>
      obtain ⟨rfl, rfl⟩ := List.cons.inj split
      obtain ⟨_, same⟩ := exists_member_iff.mp ⟨members, value, Option.some.inj object, member⟩
      obtain rfl := Option.some.inj (here.symm.trans same)
      exact Or.inl ⟨rfl, rfl⟩
    | cons k around =>
      obtain ⟨rfl, rfl⟩ := List.cons.inj split
      rw [at?, here] at object
      exact Or.inr ⟨around, j, members, value, rfl, object, member⟩
  · rintro (⟨rfl, named⟩ | ⟨around, j, members, value, rfl, object, member⟩)
    · have here : v.children[i]? = some (some key, child.2) := by rw [here, ← named]
      obtain ⟨members, value, object, member⟩ := exists_member_iff.mpr ⟨child.2, here⟩
      exact ⟨[], i, members, value, rfl, congrArg some object, member⟩
    · refine ⟨i :: around, j, members, value, rfl, ?_, member⟩
      rw [at?, here]
      exact object

theorem Refers.unique {d : Connection} (h : v.Refers c) (h' : v.Refers d) : d = c := by
  obtain ⟨members, rfl, node, output⟩ := h
  obtain ⟨_, ⟨⟩, node', output'⟩ := h'
  have node := Json.str.inj (Option.some.inj (node'.symm.trans node))
  have output := Json.str.inj (Option.some.inj (output'.symm.trans output))
  show Connection.mk d.fromNode d.fromOutput = ⟨c.fromNode, c.fromOutput⟩
  rw [node, output]

theorem refersAt_nil_iff : v.RefersAt [] c ↔ v.Refers c := by simp [RefersAt, at?]

theorem refersAt_cons_iff :
    v.RefersAt (i :: path) c
      ↔ ∃ child, v.children[i]? = some child ∧ child.2.RefersAt path c := by
  cases here : v.children[i]? <;> simp [RefersAt, at?, here]

theorem outermost_nil : v.Outermost [] :=
  fun _ inside other => absurd (List.prefix_nil.mp inside) other

/-- What lies around a place inside a child is the value, or lies in the child. -/
theorem outermost_cons_iff (here : v.children[i]? = some child) :
    v.Outermost (i :: path) ↔ (∀ c, ¬v.Refers c) ∧ child.2.Outermost path := by
  constructor
  · refine fun outer => ⟨fun c refers => ?_, fun around inside other c refers => ?_⟩
    · exact outer [] List.nil_prefix (List.cons_ne_nil i path).symm c (refersAt_nil_iff.mpr refers)
    · refine outer (i :: around) (List.cons_prefix_cons.mpr ⟨rfl, inside⟩) ?_ c
        (refersAt_cons_iff.mpr ⟨child, here, refers⟩)
      exact fun same => other (List.cons.inj same).2
  · rintro ⟨plain, outer⟩ (_ | ⟨j, around⟩) inside other c refers
    · exact plain c (refersAt_nil_iff.mp refers)
    · obtain rfl := (List.cons_prefix_cons.mp inside).1
      obtain ⟨child', here', refers⟩ := refersAt_cons_iff.mp refers
      obtain rfl := Option.some.inj (here.symm.trans here')
      have inside := (List.cons_prefix_cons.mp inside).2
      exact outer around inside (fun same => other (congrArg _ same)) c refers

theorem Outermost.eq_nil (outer : v.Outermost path) (refers : v.Refers c) : path = [] :=
  Classical.byContradiction fun other =>
    outer [] List.nil_prefix (Ne.symm other) c (refersAt_nil_iff.mpr refers)

/-- **Nothing is found on no level.** -/
theorem not_found_zero : ¬v.Found 0 path c := by
  rintro ⟨-, -, near | ⟨zero, member⟩⟩
  · exact absurd near (Nat.not_lt_zero _)
  · obtain rfl := List.eq_nil_of_length_eq_zero zero
    exact not_isMember_nil member

/-- **In a value that refers, only the value is found.** -/
theorem found_of_refers (refers : v.Refers c) {d : Connection} :
    v.Found (levels + 1) path d ↔ path = [] ∧ d = c := by
  constructor
  · rintro ⟨refers', outer, -⟩
    obtain rfl := outer.eq_nil refers
    exact ⟨rfl, refers.unique (refersAt_nil_iff.mp refers')⟩
  · rintro ⟨rfl, rfl⟩
    exact ⟨refersAt_nil_iff.mpr refers, outermost_nil, Or.inl (Nat.zero_lt_succ levels)⟩

/-- **In a value that does not refer, what is found is found in a child**, on one level less, or
it is the child and is seen from the value. -/
theorem found_of_not_refers (plain : ∀ c, ¬v.Refers c) :
    v.Found (levels + 1) path c
      ↔ ∃ i child rest, path = i :: rest ∧ v.children[i]? = some child
        ∧ (child.2.Found levels rest c
          ∨ rest = [] ∧ child.1 = some "connection" ∧ child.2.Refers c) := by
  constructor
  · rintro ⟨refers, outer, near⟩
    cases path with
    | nil => exact absurd (refersAt_nil_iff.mp refers) (plain c)
    | cons i rest =>
      obtain ⟨child, here, refers⟩ := refersAt_cons_iff.mp refers
      have outer := ((outermost_cons_iff here).mp outer).2
      refine ⟨i, child, rest, rfl, here, ?_⟩
      rw [List.length_cons, Nat.succ_lt_succ_iff, Nat.succ_inj, isMember_cons_iff here] at near
      rcases near with near | ⟨last, ⟨rfl, named⟩ | member⟩
      · exact Or.inl ⟨refers, outer, Or.inl near⟩
      · exact Or.inr ⟨rfl, named, refersAt_nil_iff.mp refers⟩
      · exact Or.inl ⟨refers, outer, Or.inr ⟨last, member⟩⟩
  · rintro ⟨i, child, rest, rfl, here, ⟨refers, outer, near⟩ | ⟨rfl, named, refers⟩⟩
    · refine ⟨refersAt_cons_iff.mpr ⟨child, here, refers⟩,
        (outermost_cons_iff here).mpr ⟨plain, outer⟩, ?_⟩
      rw [List.length_cons, Nat.succ_lt_succ_iff, Nat.succ_inj, isMember_cons_iff here]
      exact near.imp id fun ⟨last, member⟩ => ⟨last, Or.inr member⟩
    · refine ⟨refersAt_cons_iff.mpr ⟨child, here, refersAt_nil_iff.mpr refers⟩,
        (outermost_cons_iff here).mpr ⟨plain, outermost_nil⟩, ?_⟩
      rw [isMember_cons_iff here]
      rcases Nat.eq_zero_or_pos levels with rfl | positive
      · exact Or.inr ⟨rfl, Or.inl ⟨rfl, named⟩⟩
      · exact Or.inl (Nat.succ_lt_succ positive)

end Json

/-! ## Lists in document order -/

/-- **The connections are listed in document order**: each one that is found stands in
the list once, where its place puts it. -/
def InDocumentOrder (cs : List Connection) (found : List Nat → Connection → Prop) : Prop :=
  ∃ places : List (List Nat × Connection), cs = places.map Prod.snd
    ∧ places.Pairwise (fun p q => p.1 < q.1) ∧ ∀ path c, (path, c) ∈ places ↔ found path c

namespace InDocumentOrder

variable {cs ds : List Connection} {found found' : List Nat → Connection → Prop}

/-- What is found is a matter of place and connection alone. -/
theorem congr (h : InDocumentOrder cs found) (same : ∀ path c, found path c ↔ found' path c) :
    InDocumentOrder cs found' := by
  obtain ⟨places, list, sorted, mem⟩ := h
  exact ⟨places, list, sorted, fun path c => (mem path c).trans (same path c)⟩

theorem nil (none : ∀ path c, ¬found path c) : InDocumentOrder [] found :=
  ⟨[], rfl, .nil, fun path c => iff_of_false List.not_mem_nil (none path c)⟩

theorem singleton (c : Connection) (one : ∀ path d, found path d ↔ path = [] ∧ d = c) :
    InDocumentOrder [c] found :=
  ⟨[([], c)], rfl, List.pairwise_singleton .., fun path d => by simp [one]⟩

/-- What is found in a child is found one step further down in the value. -/
theorem inside (h : InDocumentOrder cs found) (i : Nat) :
    InDocumentOrder cs fun path c => ∃ rest, path = i :: rest ∧ found rest c := by
  obtain ⟨places, rfl, sorted, mem⟩ := h
  refine ⟨places.map fun p => (i :: p.1, p.2), by simp, ?_, fun path c => ?_⟩
  · refine List.pairwise_map.mpr (sorted.imp fun before => ?_)
    exact List.cons_lt_cons_iff.mpr (Or.inr ⟨rfl, before⟩)
  · simp only [List.mem_map, Prod.mk.injEq, Prod.exists, mem]
    constructor
    · rintro ⟨rest, _, there, rfl, rfl⟩
      exact ⟨rest, rfl, there⟩
    · rintro ⟨rest, rfl, there⟩
      exact ⟨rest, c, there, rfl, rfl⟩

/-- One list after the other, if all that is found for the first one comes first. -/
theorem append (h : InDocumentOrder cs found) (h' : InDocumentOrder ds found')
    (before : ∀ path c path' c', found path c → found' path' c' → path < path') :
    InDocumentOrder (cs ++ ds) fun path c => found path c ∨ found' path c := by
  obtain ⟨places, rfl, sorted, mem⟩ := h
  obtain ⟨places', rfl, sorted', mem'⟩ := h'
  refine ⟨places ++ places', List.map_append.symm, ?_, fun path c => ?_⟩
  · refine List.pairwise_append.mpr ⟨sorted, sorted', fun p hp q hq => ?_⟩
    exact before _ _ _ _ ((mem _ _).mp hp) ((mem' _ _).mp hq)
  · rw [List.mem_append, mem, mem']

/-- **What is found in the children, child after child.** -/
theorem flatMap {α : Type} {list : α → List Connection} {found : α → List Nat → Connection → Prop}
    (each : ∀ a, InDocumentOrder (list a) (found a)) (children : List α) :
    InDocumentOrder (children.flatMap list) fun path c =>
      ∃ i a rest, path = i :: rest ∧ children[i]? = some a ∧ found a rest c := by
  -- from the back, so that the children before the last one keep their numbers
  induction children using List.reverseRecOn with
  | nil => exact nil fun _ _ ⟨_, _, _, _, here, _⟩ => nomatch here
  | append_singleton children a ih =>
    have child (i : Nat) (b : α) : (children ++ [a])[i]? = some b
        ↔ children[i]? = some b ∨ i = children.length ∧ a = b := by
      grind
    rw [List.flatMap_append, List.flatMap_singleton]
    refine (ih.append ((each a).inside children.length) ?_).congr fun path c => ?_
    · rintro _ c _ c' ⟨i, b, rest, rfl, here, -⟩ ⟨rest', rfl, -⟩
      exact List.cons_lt_cons_iff.mpr (Or.inl (List.getElem?_eq_some_iff.mp here).1)
    · simp only [child]
      constructor
      · rintro (⟨i, b, rest, rfl, here, there⟩ | ⟨rest, rfl, there⟩)
        · exact ⟨i, b, rest, rfl, Or.inl here, there⟩
        · exact ⟨_, a, rest, rfl, Or.inr ⟨rfl, rfl⟩, there⟩
      · rintro ⟨i, b, rest, rfl, here | ⟨rfl, rfl⟩, there⟩
        · exact Or.inl ⟨i, b, rest, rfl, here, there⟩
        · exact Or.inr ⟨rest, rfl, there⟩

end InDocumentOrder

/-! ## What the search finds -/

theorem Json.text?_eq_some_iff {v : Json} {text : String} :
    v.text? = some text ↔ v = .str text := by
  cases v <;> simp [text?]

/-- **The connection a value is**, if it refers to one. -/
theorem Connection.ofValue?_eq_some_iff {v : Json} {c : Connection} :
    ofValue? v = some c ↔ v.Refers c := by
  unfold ofValue? Json.Refers
  cases v with
  | obj members =>
    simp only [Option.bind_eq_bind, Option.bind_eq_some_iff, Json.text?_eq_some_iff, Json.get?]
    constructor
    · rintro ⟨_, node, _, rfl, _, output, _, rfl, same⟩
      obtain rfl := Option.some.inj same
      exact ⟨members, rfl, node, output⟩
    · rintro ⟨_, ⟨⟩, node, output⟩
      exact ⟨_, node, _, rfl, _, output, _, rfl, rfl⟩
  | _ => simp [Json.get?]

namespace Json

variable {v : Json} {c : Connection} {levels : Nat}

/-- **The references that are found in a child**: it is one itself and stands under the
key for one, or it is searched in turn. -/
def inChild (levels : Nat) (child : Option String × Json) : List Connection :=
  match if child.1 = some "connection" then Connection.ofValue? child.2 else none with
  | some c => [c]
  | none => child.2.referencesWithin levels

/-- A value that refers is taken whole. -/
theorem referencesWithin_of_refers (refers : v.Refers c) :
    v.referencesWithin (levels + 1) = [c] := by
  have found := Connection.ofValue?_eq_some_iff.mpr refers
  obtain ⟨members, rfl, -⟩ := refers
  simp [referencesWithin, found]

theorem referencesWithin_of_not_refers (plain : ∀ c, ¬v.Refers c) :
    v.referencesWithin (levels + 1) = v.children.flatMap (inChild levels) := by
  have none : Connection.ofValue? v = none :=
    Option.eq_none_iff_forall_ne_some.mpr fun c found =>
      plain c (Connection.ofValue?_eq_some_iff.mp found)
  cases v with
  | obj members =>
    rw [referencesWithin, none, children, List.flatMap_map]
    refine congrArg (fun search => members.flatMap search) (funext fun member => ?_)
    by_cases named : member.1 = "connection"
    · cases found : Connection.ofValue? member.2 <;> simp [inChild, named, found]
    · simp [inChild, named]
  | arr items => simp [referencesWithin, children, List.flatMap_map, inChild]
  | _ => rfl

/-- A child that refers and stands under the key for a reference is found, and nothing in
it; any other child is searched. -/
theorem inDocumentOrder_inChild {child : Option String × Json}
    (searched : InDocumentOrder (child.2.referencesWithin levels) (child.2.Found levels)) :
    InDocumentOrder (inChild levels child) fun path c => child.2.Found levels path c
      ∨ path = [] ∧ child.1 = some "connection" ∧ child.2.Refers c := by
  unfold inChild
  split
  · next c wrapped =>
    obtain ⟨named, found⟩ := Option.ite_none_right_eq_some.mp wrapped
    have refers := Connection.ofValue?_eq_some_iff.mp found
    refine .singleton c fun path d => ⟨?_, ?_⟩
    · rintro (⟨refers', outer, -⟩ | ⟨rfl, -, refers'⟩)
      · obtain rfl := outer.eq_nil refers
        exact ⟨rfl, refers.unique (refersAt_nil_iff.mp refers')⟩
      · exact ⟨rfl, refers.unique refers'⟩
    · rintro ⟨rfl, rfl⟩
      exact Or.inr ⟨rfl, named, refers⟩
  · next bare =>
    refine searched.congr fun path c => (or_iff_left ?_).symm
    rintro ⟨-, named, refers⟩
    rw [if_pos named, Connection.ofValue?_eq_some_iff.mpr refers] at bare
    cases bare

/-- **The search lists what is found** on the levels that it goes down. -/
theorem inDocumentOrder_referencesWithin (levels : Nat) (v : Json) :
    InDocumentOrder (v.referencesWithin levels) (v.Found levels) := by
  induction levels generalizing v with
  | zero =>
    have none : v.referencesWithin 0 = [] := by
      unfold referencesWithin
      rfl
    rw [none]
    exact .nil fun _ _ => not_found_zero
  | succ levels ih =>
    by_cases plain : ∀ c, ¬v.Refers c
    · rw [referencesWithin_of_not_refers plain]
      have searched := InDocumentOrder.flatMap
        (fun child => inDocumentOrder_inChild (ih child.2)) v.children
      exact searched.congr fun _ _ => (found_of_not_refers plain).symm
    · obtain ⟨c, refers⟩ := Classical.not_forall_not.mp plain
      rw [referencesWithin_of_refers refers]
      exact .singleton c fun _ _ => found_of_refers refers

/-- **The references of a value are its outermost ones, within a bounded depth.** They are
listed once for each place where they lie, in document order: a value before all that is
inside it, and what is inside a child before the next child. A reference counts if it lies
inside no other one and at most sixty-four levels below the value, and also on the level
after that if it is the member `connection` of the object around it. Nothing else does. -/
theorem references_are_outermost (v : Json) :
    ∃ places : List (List Nat × Connection),
      v.references = places.map Prod.snd
        ∧ places.Pairwise (fun p q => p.1 < q.1)
        ∧ ∀ path c, (path, c) ∈ places
          ↔ v.RefersAt path c ∧ v.Outermost path
            ∧ (path.length ≤ 64 ∨ path.length = 65 ∧ v.IsMember "connection" path) := by
  obtain ⟨places, list, sorted, mem⟩ := inDocumentOrder_referencesWithin searchedLevels v
  refine ⟨places, list, sorted, fun path c => (mem path c).trans ?_⟩
  constructor
  · rintro ⟨refers, outer, near⟩
    exact ⟨refers, outer, near.imp_left Nat.le_of_lt_succ⟩
  · rintro ⟨refers, outer, near⟩
    exact ⟨refers, outer, near.imp_left Nat.lt_succ_of_le⟩

example :
    let reference := Json.obj [("from_node", .str "a"), ("from_output", .str "x")]
    let inside := Nat.repeat fun v => Json.obj [("next", v)]
    (inside 64 (.obj [("connection", reference)])).references = [⟨"a", "x"⟩]
      ∧ (inside 65 reference).references = [] := by decide +kernel

end Json

end AgentWorkflow
