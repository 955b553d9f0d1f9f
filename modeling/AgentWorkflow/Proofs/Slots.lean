import AgentWorkflow.Graph.Node

/-!
# Input slots

The slots of a node are a list, and what is wired to one of them is found by its
name. A type may declare two slots of one name. Whoever draws an edge always
meets the first of them, so the others stay empty for ever. A list of slots is
*tidy* if they are, and if no source feeds one slot twice (`InputSlot.Tidy`).

What can be seen of a tidy list from outside is which slots it has and which
sources feed each input (`InputSlot.linksAt`), and this is all there is to it:
`InputSlot.Tidy.eq_of_linksAt`.
-/

namespace AgentWorkflow

namespace InputSlot

/-- The slot with nothing wired to it. -/
def unwired (s : InputSlot) : InputSlot := { s with links := [] }

/-- The sources that feed the input of a name: those of the first slot of that
name. -/
def linksAt (slots : List InputSlot) (name : String) : List Connection :=
  (slots.find? fun s => s.name = name).elim [] InputSlot.links

/-- **No slot is fed twice from one source**, and of the slots of one name only
the first is fed at all. -/
structure Tidy (slots : List InputSlot) : Prop where
  /-- No slot is fed twice from one source. -/
  nodup : ∀ s ∈ slots, s.links.Nodup
  /-- What follows a slot of the same name is empty. -/
  shadowed : slots.Pairwise fun s t => s.name = t.name → t.links = []

/-- A change that concerns the sources of a slot, and nothing else. -/
def Rewires (change : InputSlot → InputSlot) : Prop := ∀ s, (change s).unwired = s.unwired

/-- The sources of a slot with one more, which comes last unless it is there
already. -/
def added (links : List Connection) (c : Connection) : List Connection :=
  if links.contains c then links else links ++ [c]

variable {s t : InputSlot} {slots others : List InputSlot} {change : InputSlot → InputSlot}
  {name : String}

theorem Rewires.name_eq (rewires : Rewires change) (s : InputSlot) :
    (change s).name = s.name := by
  show (change s).unwired.name = s.unwired.name
  rw [rewires s]

theorem rewires_link (c : Connection) : Rewires fun s => s.link c := by
  intro s
  dsimp only [link]
  split <;> rfl

theorem rewires_unlink (c : Connection) : Rewires fun s => s.unlink c := fun _ => rfl

theorem rewires_unlinkNode (id : String) : Rewires fun s => s.unlinkNode id := fun _ => rfl

theorem links_link (s : InputSlot) (c : Connection) : (s.link c).links = added s.links c := by
  unfold link added
  split <;> rfl

/-! ## Sources added one after the other -/

theorem mem_added {links : List Connection} {c d : Connection} :
    d ∈ added links c ↔ d ∈ links ∨ d = c := by
  unfold added
  split
  · next known =>
    have known : c ∈ links := List.contains_iff_mem.mp known
    constructor
    · exact Or.inl
    · rintro (h | rfl)
      · exact h
      · exact known
  · rw [List.mem_append, List.mem_singleton]

theorem nodup_added {links : List Connection} (nodup : links.Nodup) (c : Connection) :
    (added links c).Nodup := by
  unfold added
  split
  · exact nodup
  · next new =>
    have new : c ∉ links := fun h => new (List.contains_iff_mem.mpr h)
    rw [List.nodup_append]
    refine ⟨nodup, by simp, ?_⟩
    rintro d hd e he rfl
    exact new (List.mem_singleton.mp he ▸ hd)

/-- **Sources that are all different** are added in their order. -/
theorem foldl_added (links more : List Connection) (nodup : (links ++ more).Nodup) :
    more.foldl added links = links ++ more := by
  induction more generalizing links with
  | nil => exact (List.append_nil links).symm
  | cons c more ih =>
    have new : c ∉ links := fun h =>
      (List.nodup_append.mp nodup).2.2 c h c List.mem_cons_self rfl
    have last : added links c = links ++ [c] :=
      if_neg fun known => new (List.contains_iff_mem.mp known)
    rw [List.foldl_cons, last, ih (links ++ [c]) (by simpa using nodup), List.append_assoc]
    rfl

/-! ## The first slot of a name -/

theorem linksAt_cons (s : InputSlot) (slots : List InputSlot) (name : String) :
    linksAt (s :: slots) name = if s.name = name then s.links else linksAt slots name := by
  unfold linksAt
  rw [List.find?_cons]
  split
  · next h => rw [if_pos (of_decide_eq_true h)]; rfl
  · next h => rw [if_neg (of_decide_eq_false h)]

/-- Slots that are hidden by one of the same name feed nothing. -/
theorem linksAt_of_shadowed (shadowed : ∀ t ∈ slots, name = t.name → t.links = []) :
    linksAt slots name = [] := by
  unfold linksAt
  cases found : slots.find? fun s => s.name = name with
  | none => rfl
  | some t =>
    have here : decide (t.name = name) = true :=
      List.find?_some (p := fun s : InputSlot => decide (s.name = name)) found
    have here : t.name = name := of_decide_eq_true here
    exact shadowed t (List.mem_of_find?_eq_some found) here.symm

theorem linksAt_map_unwired (slots : List InputSlot) (name : String) :
    linksAt (slots.map unwired) name = [] := by
  refine linksAt_of_shadowed fun t ht _ => ?_
  obtain ⟨s, -, rfl⟩ := List.mem_map.mp ht
  rfl

/-- What is changed at the first slot of a name is fed to that input, and
nothing else changes. -/
theorem linksAt_updateFirst (rewires : Rewires change) (slots : List InputSlot)
    (name other : String) :
    linksAt (updateFirst name change slots) other
      = if other = name then (slots.find? fun s => s.name = name).elim [] fun s => (change s).links
        else linksAt slots other := by
  induction slots with
  | nil =>
    unfold updateFirst linksAt
    split <;> rfl
  | cons s slots ih =>
    unfold updateFirst
    by_cases here : s.name = name
    · rw [if_pos here, linksAt_cons, linksAt_cons, rewires.name_eq, here,
        List.find?_cons_of_pos (p := fun s : InputSlot => decide (s.name = name))
          (decide_eq_true here)]
      by_cases same : other = name
      · rw [if_pos same.symm, if_pos same]
        rfl
      · rw [if_neg (Ne.symm same), if_neg same, if_neg (Ne.symm same)]
    · rw [if_neg here, linksAt_cons, ih, List.find?_cons_of_neg
        (p := fun s : InputSlot => decide (s.name = name)) (by simpa using here), linksAt_cons]
      by_cases same : other = name
      · subst same
        rw [if_pos rfl, if_pos rfl, if_neg here]
      · rw [if_neg same, if_neg same]

theorem map_unwired_updateFirst (rewires : Rewires change) (name : String)
    (slots : List InputSlot) :
    (updateFirst name change slots).map unwired = slots.map unwired := by
  induction slots with
  | nil => rfl
  | cons s slots ih =>
    unfold updateFirst
    split
    · rw [List.map_cons, List.map_cons, rewires s]
    · rw [List.map_cons, List.map_cons, ih]

theorem mem_updateFirst (h : t ∈ updateFirst name change slots) :
    t ∈ slots ∨ ∃ s ∈ slots, s.name = name ∧ t = change s := by
  induction slots with
  | nil => cases h
  | cons s slots ih =>
    unfold updateFirst at h
    by_cases here : s.name = name
    · rw [if_pos here] at h
      rcases List.mem_cons.mp h with rfl | rest
      · exact Or.inr ⟨s, List.mem_cons_self, here, rfl⟩
      · exact Or.inl (List.mem_cons_of_mem s rest)
    · rw [if_neg here] at h
      rcases List.mem_cons.mp h with rfl | rest
      · exact Or.inl List.mem_cons_self
      · rcases ih rest with old | ⟨u, hu, named, rfl⟩
        · exact Or.inl (List.mem_cons_of_mem s old)
        · exact Or.inr ⟨u, List.mem_cons_of_mem s hu, named, rfl⟩

namespace Tidy

theorem of_unwired (none : ∀ s ∈ slots, s.links = []) : Tidy slots where
  nodup s hs := by rw [none s hs]; exact List.nodup_nil
  shadowed := List.pairwise_of_forall_mem_list fun _ _ t ht _ => none t ht

theorem tail (tidy : Tidy (s :: slots)) : Tidy slots :=
  ⟨fun t ht => tidy.nodup t (List.mem_cons_of_mem s ht), (List.pairwise_cons.mp tidy.shadowed).2⟩

/-- What follows the first slot and has its name is empty. -/
theorem links_eq_nil (tidy : Tidy (s :: slots)) (ht : t ∈ slots) (same : s.name = t.name) :
    t.links = [] :=
  (List.pairwise_cons.mp tidy.shadowed).1 t ht same

theorem nodup_linksAt (tidy : Tidy slots) (name : String) : (linksAt slots name).Nodup := by
  unfold linksAt
  cases found : slots.find? fun s => s.name = name with
  | none => exact List.nodup_nil
  | some s => exact tidy.nodup s (List.mem_of_find?_eq_some found)

/-- **Changing the first slot of a name** keeps a list tidy. -/
theorem updateFirst (tidy : Tidy slots) (rewires : Rewires change)
    (nodup : ∀ s : InputSlot, s.links.Nodup → (change s).links.Nodup) (name : String) :
    Tidy (updateFirst name change slots) := by
  induction slots with
  | nil => exact tidy
  | cons s slots ih =>
    unfold InputSlot.updateFirst
    have hs := tidy.nodup s List.mem_cons_self
    split
    · refine ⟨?_, List.pairwise_cons.mpr ⟨fun t ht same => ?_, tidy.tail.shadowed⟩⟩
      · rintro t (_ | ⟨_, ht⟩)
        · exact nodup s hs
        · exact tidy.tail.nodup t ht
      · rw [rewires.name_eq] at same
        exact tidy.links_eq_nil ht same
    · next other =>
      have rest := ih tidy.tail
      refine ⟨?_, List.pairwise_cons.mpr ⟨fun t ht same => ?_, rest.shadowed⟩⟩
      · rintro t (_ | ⟨_, ht⟩)
        · exact hs
        · exact rest.nodup t ht
      · rcases mem_updateFirst ht with old | ⟨u, -, named, rfl⟩
        · exact tidy.links_eq_nil old same
        · rw [rewires.name_eq, named] at same
          exact absurd same other

/-- **Removing sources everywhere** keeps a list tidy. -/
theorem map (tidy : Tidy slots) (rewires : Rewires change)
    (fewer : ∀ s, (change s).links.Sublist s.links) : Tidy (slots.map change) where
  nodup t ht := by
    obtain ⟨s, hs, rfl⟩ := List.mem_map.mp ht
    exact (tidy.nodup s hs).sublist (fewer s)
  shadowed := by
    rw [List.pairwise_map]
    refine tidy.shadowed.imp fun {s t} empty same => ?_
    rw [rewires.name_eq, rewires.name_eq] at same
    exact List.sublist_nil.mp (empty same ▸ fewer t)

/-- **Tidy lists are equal** if they have the same slots and feed the same
inputs. -/
theorem eq_of_linksAt (tidy : Tidy slots) (tidy' : Tidy others)
    (same : slots.map unwired = others.map unwired)
    (links : ∀ name, linksAt slots name = linksAt others name) : slots = others := by
  induction slots generalizing others with
  | nil => exact (List.map_eq_nil_iff.mp same.symm).symm
  | cons s slots ih =>
    cases others with
    | nil => cases same
    | cons t others =>
      obtain ⟨head, rest⟩ := List.cons.inj same
      have named : s.name = t.name := (InputSlot.mk.inj head).1
      have first := links s.name
      rw [linksAt_cons, linksAt_cons, if_pos rfl, if_pos named.symm] at first
      obtain rfl : s = t := by
        cases s
        cases t
        cases head
        cases first
        rfl
      refine congrArg (s :: ·) (ih tidy.tail tidy'.tail rest fun name => ?_)
      by_cases here : s.name = name
      · -- behind the first slot of its name, neither list feeds anything
        subst here
        rw [linksAt_of_shadowed fun t ht => tidy.links_eq_nil ht,
          linksAt_of_shadowed fun t ht => tidy'.links_eq_nil ht]
      · have behind := links name
        rwa [linksAt_cons, linksAt_cons, if_neg here, if_neg here] at behind

/-- All that tidy slots of one name are fed is what that input is fed. -/
theorem flatMap_links (tidy : Tidy slots) (name : String) :
    (slots.flatMap fun s => if s.name = name then s.links else []) = linksAt slots name := by
  induction slots with
  | nil => rfl
  | cons s slots ih =>
    rw [List.flatMap_cons, linksAt_cons, ih tidy.tail]
    split
    · next here =>
      rw [linksAt_of_shadowed fun t ht same => tidy.links_eq_nil ht (here.trans same),
        List.append_nil]
    · rfl

end Tidy

end InputSlot

end AgentWorkflow
