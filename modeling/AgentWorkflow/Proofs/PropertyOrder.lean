import AgentWorkflow.Proofs.ReadingBack
import Mathlib.Data.List.TakeWhile

/-!
# The order of properties

The output that a run reports for a node is kept among the properties of the node. It
is not written, so recording it does not show. To drop it does: its place is filled
with the last property, and if that one is written, and another one that is written
comes between the two, then the order of what is written has changed
(`Fields.Unsettled`).

**What is settled.** The properties in front of the output stay where they are, whatever
is set, recorded or dropped: their keys are *settled* (`Fields.settled`). Dropping the
output settles all properties there are. Properties that have come to be in another
order can therefore never come back to the one that they should have
(`Fields.Follows.diverged`).
-/

namespace AgentWorkflow

namespace Fields

open Graph.Node (isInternalKey lastOutputKey)

variable {fs alone : Fields} {key : String} {value : Json}

/-- The members that are written into a definition. -/
def authored (fs : Fields) : Fields := fs.filter fun m => !isInternalKey m.1

/-- What a run reports: the output is recorded, or dropped if there is none. -/
def report (output : Option Json) (fs : Fields) : Fields :=
  match output with
  | some value => fs.set lastOutputKey value
  | none => fs.swapRemove lastOutputKey

/-- **The keys that have found their place**: those that are written and come before the
output. -/
def settled (fs : Fields) : List String :=
  keys (authored (fs.takeWhile fun m => m.1 ≠ lastOutputKey))

/-- **Dropping the output will change the order** of what is written: the last member is
written, and so is another one that comes between the output and the last. -/
def Unsettled (fs : Fields) : Prop :=
  ∃ (before : Fields) (output : Json) (between : Fields) (last : String × Json),
    fs = before ++ (lastOutputKey, output) :: (between ++ [last])
      ∧ isInternalKey last.1 = false ∧ ∃ m ∈ between, isInternalKey m.1 = false

theorem fst_ne_of_notMem {m : String × Json} (none : key ∉ fs.keys) (h : m ∈ fs) : m.1 ≠ key := by
  rintro rfl
  exact none (List.mem_map_of_mem h)

/-! ## What is written -/

theorem authored_append (before after : Fields) :
    authored (before ++ after) = authored before ++ authored after :=
  List.filter_append ..

theorem authored_cons_of_internal (kept : isInternalKey key = true) (value : Json) (fs : Fields) :
    authored ((key, value) :: fs) = authored fs :=
  List.filter_cons_of_neg (by rw [kept]; exact Bool.false_ne_true)

theorem authored_cons_output (output : Json) (fs : Fields) :
    authored ((lastOutputKey, output) :: fs) = authored fs :=
  authored_cons_of_internal Graph.Node.isInternalKey_lastOutputKey output fs

theorem authored_cons_of_authored (written : isInternalKey key = false) (value : Json)
    (fs : Fields) : authored ((key, value) :: fs) = (key, value) :: authored fs :=
  List.filter_cons_of_pos (by rw [written]; rfl)

/-- Recording an output does not show. -/
theorem authored_set_output (fs : Fields) (value : Json) :
    authored (fs.set lastOutputKey value) = authored fs := by
  induction fs with
  | nil => exact authored_cons_output value []
  | cons m fs ih =>
    obtain ⟨k, v⟩ := m
    rw [set]
    split
    · next here =>
      subst here
      rw [authored_cons_output, authored_cons_output]
    · unfold authored at ih ⊢
      rw [List.filter_cons, List.filter_cons, ih]

/-- **Setting a member that is written** sets it in what is written. -/
theorem authored_set (written : isInternalKey key = false) (fs : Fields) (value : Json) :
    authored (fs.set key value) = (authored fs).set key value := by
  induction fs with
  | nil => exact authored_cons_of_authored written value []
  | cons m fs ih =>
    obtain ⟨k, v⟩ := m
    rw [set]
    split
    · next here =>
      subst here
      rw [authored_cons_of_authored written, authored_cons_of_authored written, set, if_pos rfl]
    · next apart =>
      cases kept : isInternalKey k with
      | true => rw [authored_cons_of_internal kept, authored_cons_of_internal kept, ih]
      | false =>
        rw [authored_cons_of_authored kept, authored_cons_of_authored kept, set, if_neg apart, ih]

theorem nodup_keys_authored (distinct : fs.keys.Nodup) : (authored fs).keys.Nodup :=
  distinct.sublist (List.filter_sublist.map Prod.fst)

/-- Setting a key of members without a key twice, in whatever order. -/
theorem set_perm (distinct : fs.keys.Nodup) (key : String) (value : Json) :
    (fs.set key value).Perm ((key, value) :: fs.filter fun m => m.1 ≠ key) := by
  induction fs with
  | nil => exact .refl _
  | cons m fs ih =>
    obtain ⟨k, v⟩ := m
    obtain ⟨once, distinct⟩ := List.nodup_cons.mp distinct
    rw [set]
    split
    · next here =>
      subst here
      have others : fs.filter (fun m => m.1 ≠ k) = fs := List.filter_eq_self.mpr fun m hm =>
        decide_eq_true (fst_ne_of_notMem once hm)
      rw [List.filter_cons_of_neg (by simp), others]
    · next apart =>
      rw [List.filter_cons_of_pos (by simpa using apart)]
      exact ((ih distinct).cons _).trans (.swap _ _ _)

/-! ## What is settled -/

theorem settled_cons_output (output : Json) (fs : Fields) :
    settled ((lastOutputKey, output) :: fs) = [] := by
  unfold settled
  rw [List.takeWhile_cons_of_neg (by simp)]
  rfl

theorem settled_cons (apart : key ≠ lastOutputKey) (value : Json) (fs : Fields) :
    settled ((key, value) :: fs)
      = if isInternalKey key then settled fs else key :: settled fs := by
  unfold settled
  rw [List.takeWhile_cons_of_pos (by simpa using apart)]
  cases kept : isInternalKey key with
  | true => exact congrArg keys (authored_cons_of_internal kept value _)
  | false => exact congrArg keys (authored_cons_of_authored kept value _)

/-- The settled keys are the first ones of what is written. -/
theorem settled_prefix_keys (fs : Fields) : settled fs <+: (authored fs).keys :=
  ((List.takeWhile_prefix _).filter _).map Prod.fst

/-- Without an output everything is settled. -/
theorem settled_of_notMem (none : lastOutputKey ∉ fs.keys) : settled fs = (authored fs).keys := by
  unfold settled
  rw [List.takeWhile_eq_self_iff.mpr fun m hm => decide_eq_true (fst_ne_of_notMem none hm)]

theorem settled_cons_prefix {after : Fields} (m : String × Json)
    (rest : settled fs <+: settled after) : settled (m :: fs) <+: settled (m :: after) := by
  obtain ⟨k, v⟩ := m
  by_cases output : k = lastOutputKey
  · subst output
    rw [settled_cons_output]
    exact List.nil_prefix
  · rw [settled_cons output, settled_cons output]
    split
    · exact rest
    · exact List.prefix_cons_inj k |>.mpr rest

/-- **Setting a member unsettles nothing.** -/
theorem settled_prefix_set (fs : Fields) (key : String) (value : Json) :
    settled fs <+: settled (fs.set key value) := by
  induction fs with
  | nil => exact List.nil_prefix
  | cons m fs ih =>
    obtain ⟨k, v⟩ := m
    rw [set]
    split
    · next here =>
      subst here
      by_cases output : k = lastOutputKey
      · subst output
        rw [settled_cons_output]
        exact List.nil_prefix
      · have same : settled ((k, v) :: fs) = settled ((k, value) :: fs) := by
          rw [settled_cons output, settled_cons output]
        exact same ▸ List.prefix_rfl
    · exact settled_cons_prefix (k, v) ih

/-- **Dropping the output unsettles nothing.** -/
theorem settled_prefix_swapRemove (fs : Fields) :
    settled fs <+: settled (fs.swapRemove lastOutputKey) := by
  induction fs with
  | nil => exact List.nil_prefix
  | cons m fs ih =>
    obtain ⟨k, v⟩ := m
    by_cases output : k = lastOutputKey
    · subst output
      rw [settled_cons_output]
      exact List.nil_prefix
    · rw [swapRemove, if_neg output]
      exact settled_cons_prefix (k, v) ih

/-! ## Dropping the output -/

theorem swapRemove_of_notMem (none : key ∉ fs.keys) : fs.swapRemove key = fs := by
  induction fs with
  | nil => rfl
  | cons m fs ih =>
    obtain ⟨k, v⟩ := m
    have apart : k ≠ key := fun same => none (same ▸ List.mem_cons_self)
    rw [swapRemove, if_neg apart, ih fun later => none (List.mem_cons_of_mem k later)]

theorem swapRemove_append {before : Fields} (first : key ∉ before.keys) (after : Fields) :
    (before ++ after).swapRemove key = before ++ after.swapRemove key := by
  induction before with
  | nil => rfl
  | cons m before ih =>
    obtain ⟨k, v⟩ := m
    have apart : k ≠ key := fun same => first (same ▸ List.mem_cons_self)
    rw [List.cons_append, swapRemove, if_neg apart,
      ih fun later => first (List.mem_cons_of_mem k later)]
    rfl

theorem swapRemove_cons_concat (key : String) (value : Json) (between : Fields)
    (last : String × Json) :
    swapRemove ((key, value) :: (between ++ [last])) key = last :: between := by
  rw [swapRemove, if_pos rfl, List.getLast?_concat]
  dsimp only
  rw [List.dropLast_concat]

theorem eq_append_of_mem_keys (there : key ∈ fs.keys) :
    ∃ (before : Fields) (value : Json) (after : Fields),
      fs = before ++ (key, value) :: after ∧ key ∉ before.keys := by
  induction fs with
  | nil => cases there
  | cons m fs ih =>
    obtain ⟨k, v⟩ := m
    by_cases here : k = key
    · subst here
      exact ⟨[], v, fs, rfl, List.not_mem_nil⟩
    · obtain ⟨before, value, after, rfl, first⟩ :=
        ih ((List.mem_cons.mp there).resolve_left (Ne.symm here))
      exact ⟨(k, v) :: before, value, after, rfl,
        List.not_mem_cons_of_ne_of_not_mem (Ne.symm here) first⟩

/-- Whatever is dropped, the same is written, in whatever order. -/
theorem authored_swapRemove_output_perm (fs : Fields) :
    (authored (fs.swapRemove lastOutputKey)).Perm (authored fs) := by
  by_cases there : lastOutputKey ∈ fs.keys
  · obtain ⟨before, output, after, rfl, first⟩ := eq_append_of_mem_keys there
    rw [swapRemove_append first, authored_append, authored_append,
      authored_cons_output]
    rcases List.eq_nil_or_concat after with rfl | ⟨between, last, rfl⟩
    · exact .refl _
    · rw [List.concat_eq_append, swapRemove_cons_concat]
      exact ((List.perm_append_singleton last between).symm.filter _).append_left _
  · rw [swapRemove_of_notMem there]

/-- **Dropping the output does not show** unless the members are unsettled. -/
theorem authored_swapRemove_output (settled : ¬Unsettled fs) :
    authored (fs.swapRemove lastOutputKey) = authored fs := by
  by_cases there : lastOutputKey ∈ fs.keys
  · obtain ⟨before, output, after, rfl, first⟩ := eq_append_of_mem_keys there
    rw [swapRemove_append first, authored_append, authored_append,
      authored_cons_output]
    refine congrArg (authored before ++ ·) ?_
    rcases List.eq_nil_or_concat after with rfl | ⟨between, last, rfl⟩
    · rfl
    · rw [List.concat_eq_append] at settled ⊢
      rw [swapRemove_cons_concat, authored_append]
      cases kept : isInternalKey last.1 with
      | true =>
        rw [authored_cons_of_internal kept, authored_cons_of_internal kept]
        exact (List.append_nil _).symm
      | false =>
        -- nothing that is written comes between the output and the last member
        have none : authored between = [] := List.filter_eq_nil_iff.mpr fun m hm written =>
          settled ⟨before, output, between, last, rfl, kept, m, hm, by simpa using written⟩
        rw [authored_cons_of_authored kept, authored_cons_of_authored kept, none]
        rfl
  · rw [swapRemove_of_notMem there]

theorem notMem_keys_of_nodup {before after : Fields} {m : String × Json}
    (distinct : (before ++ m :: after).keys.Nodup) : m.1 ∉ before.keys := by
  intro again
  unfold keys at distinct again
  rw [List.map_append, List.nodup_append] at distinct
  exact distinct.2.2 _ again _ List.mem_cons_self rfl

/-- **Dropping the output of unsettled members** settles them in another order than
before. -/
theorem Unsettled.not_prefix (unsettled : Unsettled fs) (distinct : fs.keys.Nodup) :
    ¬settled (fs.swapRemove lastOutputKey) <+: (authored fs).keys := by
  rw [settled_of_notMem (notMem_keys_swapRemove distinct lastOutputKey)]
  obtain ⟨before, output, between, last, rfl, written, m, hm, shown⟩ := unsettled
  have first : lastOutputKey ∉ before.keys := notMem_keys_of_nodup distinct
  have apart : last.1 ∉ (authored between).keys := by
    intro again
    have distinct : ((before ++ (lastOutputKey, output) :: between) ++ [last]).keys.Nodup := by
      rwa [List.append_assoc]
    refine notMem_keys_of_nodup distinct (List.mem_map.mpr ?_)
    obtain ⟨m, hm, same⟩ := List.mem_map.mp again
    exact ⟨m, List.mem_append_right _ (List.mem_cons_of_mem _ (List.mem_filter.mp hm).1), same⟩
  rw [swapRemove_append first, swapRemove_cons_concat, authored_append, authored_append,
    authored_cons_output, authored_append,
    authored_cons_of_authored written]
  unfold keys
  rw [List.map_append, List.map_append, List.prefix_append_right_inj]
  -- the last key now stands where the first one that is written between stood
  cases between' : authored between with
  | nil =>
    have there : m ∈ authored between := List.mem_filter.mpr ⟨hm, by rw [shown]; rfl⟩
    rw [between'] at there
    cases there
  | cons next others =>
    intro same
    have same : last.1 = next.1 := (List.cons_prefix_cons.mp same).1
    exact apart (by rw [between', same]; exact List.mem_cons_self)

/-! ## Properties with outputs and without -/

/-- **Members that follow others**, which were set alike, but among which no output was
recorded. They are written in the same order, or what has settled of them is in another
order already. -/
structure Follows (fs alone : Fields) : Prop where
  /-- No key is there twice. -/
  distinct : fs.keys.Nodup
  /-- The same is written, in whatever order. -/
  perm : (authored fs).Perm (authored alone)
  /-- If the order is another one, it will stay so. -/
  diverged : authored fs ≠ authored alone → ¬settled fs <+: (authored alone).keys

namespace Follows

theorem refl (distinct : fs.keys.Nodup) : Follows fs fs :=
  ⟨distinct, .refl _, fun apart => absurd rfl apart⟩

/-- Members whose settled keys are no beginning are written in another order. -/
theorem ne_of_not_prefix (diverged : ¬settled fs <+: (authored alone).keys) :
    authored fs ≠ authored alone :=
  fun same => diverged (same ▸ settled_prefix_keys fs)

/-- **Setting a member on both sides** leaves it at that. -/
theorem set (follows : Follows fs alone) (written : isInternalKey key = false) (value : Json) :
    Follows (fs.set key value) (alone.set key value)
      ∧ (authored (fs.set key value) = authored (alone.set key value)
        ↔ authored fs = authored alone) := by
  have agree (same : authored fs = authored alone) :
      authored (fs.set key value) = authored (alone.set key value) := by
    rw [authored_set written, authored_set written, same]
  have stays (apart : authored fs ≠ authored alone) :
      ¬settled (fs.set key value) <+: (authored (alone.set key value)).keys := by
    intro again
    have begins := (settled_prefix_set fs key value).trans again
    rw [authored_set written] at begins
    by_cases old : key ∈ (authored alone).keys
    · rw [keys_set_of_mem _ old] at begins
      exact follows.diverged apart begins
    · rw [set_of_notMem _ old, keys, List.map_append] at begins
      rcases List.prefix_concat_iff.mp begins with all | begins
      · -- the key was not there to be settled
        have there : key ∈ settled fs := by
          rw [all]
          exact List.mem_append_right _ List.mem_cons_self
        exact old ((follows.perm.map Prod.fst).mem_iff.mp ((settled_prefix_keys fs).subset there))
      · exact follows.diverged apart begins
  have keys := nodup_keys_authored follows.distinct
  have keys' : (authored alone).keys.Nodup := (follows.perm.map Prod.fst).nodup_iff.mp keys
  refine ⟨⟨nodup_keys_set follows.distinct key value, ?_, fun apart => stays fun same =>
    apart (agree same)⟩, fun same => ?_, agree⟩
  · rw [authored_set written, authored_set written]
    exact (set_perm keys key value).trans
      (((follows.perm.filter _).cons _).trans (set_perm keys' key value).symm)
  · by_contra apart
    exact ne_of_not_prefix (stays apart) same

theorem setOutput (follows : Follows fs alone) (value : Json) :
    Follows (fs.set lastOutputKey value) alone where
  distinct := nodup_keys_set follows.distinct lastOutputKey value
  perm := by
    rw [authored_set_output]
    exact follows.perm
  diverged apart begins := by
    rw [authored_set_output] at apart
    exact follows.diverged apart ((settled_prefix_set fs lastOutputKey value).trans begins)

/-- Dropping the output makes the order another one if the members are unsettled, and only
then. -/
theorem dropOutput (follows : Follows fs alone) :
    Follows (fs.swapRemove lastOutputKey) alone
      ∧ (authored (fs.swapRemove lastOutputKey) = authored alone
        ↔ ¬Unsettled fs ∧ authored fs = authored alone) := by
  have stays (apart : authored fs ≠ authored alone) :
      ¬settled (fs.swapRemove lastOutputKey) <+: (authored alone).keys := fun begins =>
    follows.diverged apart ((settled_prefix_swapRemove fs).trans begins)
  have moves (unsettled : Unsettled fs) :
      ¬settled (fs.swapRemove lastOutputKey) <+: (authored alone).keys := by
    by_cases same : authored fs = authored alone
    · rw [← same]
      exact unsettled.not_prefix follows.distinct
    · exact stays same
  have order : authored (fs.swapRemove lastOutputKey) = authored alone
      ↔ ¬Unsettled fs ∧ authored fs = authored alone := by
    constructor
    · intro same
      refine ⟨fun unsettled => ne_of_not_prefix (moves unsettled) same, ?_⟩
      by_contra apart
      exact ne_of_not_prefix (stays apart) same
    · rintro ⟨settled, same⟩
      rw [authored_swapRemove_output settled, same]
  refine ⟨⟨nodup_keys_swapRemove follows.distinct lastOutputKey,
    (authored_swapRemove_output_perm fs).trans follows.perm, fun apart => ?_⟩, order⟩
  by_cases same : authored fs = authored alone
  · by_cases unsettled : Unsettled fs
    · exact moves unsettled
    · exact absurd (order.mpr ⟨unsettled, same⟩) apart
  · exact stays same

/-- **A report on one side** makes the order another one if it drops the output of
unsettled members, and only then. -/
theorem report (follows : Follows fs alone) (output : Option Json) :
    Follows (fs.report output) alone
      ∧ (authored (fs.report output) = authored alone
        ↔ ¬(output = none ∧ Unsettled fs) ∧ authored fs = authored alone) := by
  cases output with
  | none =>
    obtain ⟨dropped, order⟩ := follows.dropOutput
    exact ⟨dropped, order.trans (by rw [eq_self, true_and])⟩
  | some value =>
    refine ⟨follows.setOutput value, ?_⟩
    rw [Fields.report, authored_set_output]
    exact ⟨fun same => ⟨nofun, same⟩, And.right⟩

end Follows

end Fields

end AgentWorkflow
