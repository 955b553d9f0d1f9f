import AgentWorkflow.Config.Environment
import Mathlib.Data.List.TakeWhile

/-!
# What a reference to the surroundings may change

A reference is spelled `$`, an opening brace, a name, and a closing brace, and the name runs
to the first of these. Going over a text once, from left to right, a reference whose name is
set gives way to its value; everything else is copied, references that are not set among it
(`Environment.Passes`). A reference is taken as a whole: what looks like the beginning of one
inside it belongs to its name. This says what becomes of every text, and of no text two
things (`Environment.existsUnique_passes`).

**References that are left open.** A reference may begin and never be closed. It is none
then, and there is nothing to put a value in for. The expansion of a text takes it for one
all the same: it puts in a value, or closes it (`Environment.OpensAt.expand_eq`). All that comes
before is expanded as it should be, and so is every text in which no reference is left open.
That is where the two part (`Environment.expansion_is_one_pass_iff`).
-/

namespace AgentWorkflow

namespace Environment

variable {env : Environment} {text rest out before name : List Char}

/-! ## One pass -/

/-- What stands for a reference: the value of its name, or the reference if it has none. -/
def resolve (env : Environment) (name : List Char) : List Char :=
  ((env (String.ofList name)).map String.toList).getD (reference name)

/-- The text begins with a reference. -/
def BeginsReference (text : List Char) : Prop :=
  ∃ name rest, '\x7d' ∉ name ∧ text = reference name ++ rest

/-- **What one pass makes of a text.** A value that was put in is not looked at again. -/
inductive Passes (env : Environment) : List Char → List Char → Prop
  /-- At the end there is nothing more to do. -/
  | done : Passes env [] []
  /-- What stands for a reference is put in its place. -/
  | replaced {name rest out : List Char} (closed : '\x7d' ∉ name) (later : Passes env rest out) :
    Passes env (reference name ++ rest) (env.resolve name ++ out)
  /-- Any other character is copied. -/
  | copied {c : Char} {rest out : List Char} (plain : ¬BeginsReference (c :: rest))
      (later : Passes env rest out) :
    Passes env (c :: rest) (c :: out)

/-- **A reference is left open** at the end of the text: it begins, and is not closed. -/
def LeavesOpen (text : List Char) : Prop :=
  ∃ before name, text = before ++ '$' :: '\x7b' :: name ∧ '\x7d' ∉ name

/-- **The first reference that is left open**: what comes before it leaves none open. -/
structure OpensAt (text before name : List Char) : Prop where
  /-- What comes before, and the name as far as it goes. -/
  text_eq : text = before ++ '$' :: '\x7b' :: name
  /-- It is not closed. -/
  unclosed : '\x7d' ∉ name
  /-- It is the first one. -/
  first : ¬LeavesOpen before

/-- **A name that occurs in the text** after the beginning of a reference, up to the first
closing brace or to the end. -/
def Names (text name : List Char) : Prop :=
  ∃ before rest, text = before ++ '$' :: '\x7b' :: rest ∧ name = rest.takeWhile (· ≠ '\x7d')

/-! ## References in a text -/

theorem ne_brace (closed : '\x7d' ∉ name) : ∀ c ∈ name, decide (c ≠ '\x7d') = true :=
  fun c hc => decide_eq_true fun same : c = '\x7d' => closed (same ▸ hc)

theorem takeWhile_of_closed (closed : '\x7d' ∉ name) (rest : List Char) :
    (name ++ '\x7d' :: rest).takeWhile (· ≠ '\x7d') = name := by
  rw [List.takeWhile_append_of_pos (ne_brace closed), List.takeWhile_cons_of_neg (by simp),
    List.append_nil]

theorem dropWhile_of_closed (closed : '\x7d' ∉ name) (rest : List Char) :
    ((name ++ '\x7d' :: rest).dropWhile (· ≠ '\x7d')).drop 1 = rest := by
  rw [List.dropWhile_append_of_pos (ne_brace closed), List.dropWhile_cons_of_neg (by simp),
    List.drop_one, List.tail_cons]

theorem reference_append (name rest : List Char) :
    reference name ++ rest = '$' :: '\x7b' :: (name ++ '\x7d' :: rest) := by
  unfold reference
  simp

/-- **A text begins with at most one reference.** -/
theorem reference_inj {name' rest' : List Char} (closed : '\x7d' ∉ name) (closed' : '\x7d' ∉ name')
    (same : reference name ++ rest = reference name' ++ rest') : name = name' ∧ rest = rest' := by
  rw [reference_append, reference_append] at same
  have same : name ++ '\x7d' :: rest = name' ++ '\x7d' :: rest' := by simpa using same
  refine ⟨?_, ?_⟩
  · rw [← takeWhile_of_closed closed rest, same, takeWhile_of_closed closed']
  · rw [← dropWhile_of_closed closed rest, same, dropWhile_of_closed closed']

theorem LeavesOpen.append (h : LeavesOpen text) (front : List Char) :
    LeavesOpen (front ++ text) := by
  obtain ⟨before, name, rfl, unclosed⟩ := h
  exact ⟨front ++ before, name, (List.append_assoc ..).symm, unclosed⟩

theorem Names.append (h : Names text name) (front : List Char) : Names (front ++ text) name := by
  obtain ⟨before, rest, rfl, rfl⟩ := h
  exact ⟨front ++ before, rest, (List.append_assoc ..).symm, rfl⟩

theorem not_leavesOpen_of_closed (text : List Char) : ¬LeavesOpen (text ++ ['\x7d']) := by
  rintro ⟨before, name, same, unclosed⟩
  rcases List.eq_nil_or_concat name with rfl | ⟨init, last, rfl⟩
  · rw [List.append_cons before '$' ['\x7b']] at same
    exact absurd (List.append_inj_right' same rfl) (by decide)
  · rw [List.concat_eq_append] at same unclosed
    rw [← List.cons_append, ← List.cons_append, ← List.append_assoc] at same
    obtain rfl : '\x7d' = last := List.singleton_inj.mp (List.append_inj_right' same rfl)
    exact unclosed (by simp)

/-- **Of the references that are left open, one is the first.** -/
theorem LeavesOpen.exists_opensAt (h : LeavesOpen text) :
    ∃ before name, OpensAt text before name := by
  obtain ⟨before, name, same, unclosed⟩ := h
  induction k : before.length using Nat.strongRecOn generalizing before name with
  | ind k ih =>
    by_cases first : LeavesOpen before
    · -- an earlier one: its name goes on to the end of the text
      obtain ⟨before', name', rfl, unclosed'⟩ := first
      refine ih before'.length ?_ before' (name' ++ '$' :: '\x7b' :: name) ?_ ?_ rfl
      · simp only [List.length_append, List.length_cons] at k
        omega
      · rw [same, List.append_assoc, List.cons_append, List.cons_append]
      · simp [unclosed, unclosed']
    · exact ⟨before, name, same, unclosed, first⟩

/-- What begins with a reference does so no matter what comes behind, unless it is closed
there. -/
theorem BeginsReference.of_append {tail : List Char} (unclosed : '\x7d' ∉ tail)
    (h : BeginsReference (text ++ tail)) : BeginsReference text := by
  obtain ⟨name, rest, closed, same⟩ := h
  have ends : reference name = ('$' :: '\x7b' :: name) ++ ['\x7d'] := rfl
  rcases List.append_eq_append_iff.mp same with ⟨behind, here, there⟩ | ⟨behind, here, -⟩
  · rcases List.eq_nil_or_concat behind with rfl | ⟨init, last, rfl⟩
    · exact ⟨name, [], closed, by simpa using here.symm⟩
    · -- the closing brace would stand in the tail
      rw [ends, List.concat_eq_append, ← List.append_assoc] at here
      obtain rfl : '\x7d' = last := List.singleton_inj.mp (List.append_inj_right' here rfl)
      exact absurd (there ▸ by simp) unclosed
  · exact ⟨name, behind, closed, here⟩

/-! ## What one pass makes of a text -/

/-- **A pass makes one thing of a text.** -/
theorem Passes.unique {out' : List Char} (h : Passes env text out) (h' : Passes env text out') :
    out = out' := by
  induction h generalizing out' with
  | done =>
    generalize empty : ([] : List Char) = whole at h'
    cases h' with
    | done => rfl
    | replaced => cases empty
    | copied => cases empty
  | @replaced name rest out closed _ ih =>
    generalize same : reference name ++ rest = whole at h'
    cases h' with
    | done => cases same
    | replaced closed' later' =>
      obtain ⟨rfl, rfl⟩ := reference_inj closed closed' same
      rw [ih later']
    | copied plain _ => exact absurd ⟨name, rest, closed, same.symm⟩ plain
  | @copied c rest out plain _ ih =>
    generalize same : c :: rest = whole at h'
    cases h' with
    | done => cases same
    | replaced closed' _ => exact absurd ⟨_, _, closed', same⟩ plain
    | copied _ later' =>
      obtain ⟨rfl, rfl⟩ := List.cons.inj same
      rw [ih later']

theorem passes_of_unclosed (unclosed : '\x7d' ∉ text) : Passes env text text := by
  induction text with
  | nil => exact .done
  | cons c rest ih =>
    refine .copied ?_ (ih fun h => unclosed (List.mem_cons_of_mem c h))
    rintro ⟨name, behind, -, same⟩
    exact unclosed (same ▸ by rw [reference_append]; simp)

/-- **What is not closed is copied** behind everything else. -/
theorem Passes.append_unclosed {tail : List Char} (h : Passes env text out)
    (unclosed : '\x7d' ∉ tail) : Passes env (text ++ tail) (out ++ tail) := by
  induction h with
  | done => exact passes_of_unclosed unclosed
  | replaced closed _ ih =>
    rw [List.append_assoc, List.append_assoc]
    exact .replaced closed ih
  | copied plain _ ih => exact .copied (fun h => plain (h.of_append unclosed)) ih

/-- **Where no name is set, nothing changes.** -/
theorem Passes.eq_of_unset (h : Passes env text out)
    (unset : ∀ name, Names text name → env (String.ofList name) = none) : out = text := by
  induction h with
  | done => rfl
  | @replaced name rest out closed _ ih =>
    have here : env (String.ofList name) = none := unset name
      ⟨[], name ++ '\x7d' :: rest, reference_append name rest,
        (takeWhile_of_closed closed rest).symm⟩
    rw [ih fun other h => unset other (h.append _), resolve, here]
    rfl
  | @copied c rest out _ _ ih => rw [ih fun other h => unset other (h.append [c])]

/-! ## What the expansion makes of it -/

/-- What begins a reference and is not closed is expanded as if it were. -/
theorem expand_unclosed (env : Environment) (unclosed : '\x7d' ∉ name) :
    env.expand ('$' :: '\x7b' :: name) = env.resolve name := by
  rw [expand, List.takeWhile_eq_self_iff.mpr (ne_brace unclosed),
    List.dropWhile_eq_nil_iff.mpr (ne_brace unclosed), List.drop_nil, expand, List.append_nil]
  rfl

theorem expand_reference (env : Environment) (closed : '\x7d' ∉ name) (rest : List Char) :
    env.expand (reference name ++ rest) = env.resolve name ++ env.expand rest := by
  rw [reference_append, expand, takeWhile_of_closed closed, dropWhile_of_closed closed]
  rfl

theorem expand_cons {c : Char} (plain : ∀ r, c :: rest ≠ '$' :: '\x7b' :: r) :
    env.expand (c :: rest) = c :: env.expand rest := by
  rw [expand]
  rintro r rfl rfl
  exact plain r rfl

/-- **Reading a text from left to right**: it is at its end, or goes on with a reference, with
the beginning of one that is left open, or with any other character. -/
@[elab_as_elim]
theorem readingInduction {P : List Char → Prop} (ends : P [])
    (refers : ∀ name rest, '\x7d' ∉ name → P rest → P (reference name ++ rest))
    (opens : ∀ name, '\x7d' ∉ name → P ('$' :: '\x7b' :: name))
    (goesOn : ∀ c rest, (∀ r, c :: rest ≠ '$' :: '\x7b' :: r) → P rest → P (c :: rest))
    (text : List Char) : P text := by
  induction k : text.length using Nat.strongRecOn generalizing text with
  | ind k ih =>
    subst k
    by_cases begins : ∃ r, text = '$' :: '\x7b' :: r
    · obtain ⟨r, rfl⟩ := begins
      by_cases closed : '\x7d' ∈ r
      · obtain ⟨name, rest, rfl, first⟩ := List.eq_append_cons_of_mem closed
        rw [← reference_append]
        refine refers name rest first (ih rest.length ?_ rest rfl)
        simp only [List.length_cons, List.length_append]
        omega
      · exact opens r closed
    · cases text with
      | nil => exact ends
      | cons c rest =>
        exact goesOn c rest (fun r same => begins ⟨r, same⟩) (ih rest.length (by simp) rest rfl)

/-- **Where no reference is left open, the expansion is one pass.** -/
theorem passes_expand (env : Environment) (closed : ¬LeavesOpen text) :
    Passes env text (env.expand text) := by
  induction text using readingInduction with
  | ends =>
    rw [expand]
    exact .done
  | refers name rest named ih =>
    rw [expand_reference env named]
    exact .replaced named (ih fun h => closed (h.append _))
  | opens name unclosed => exact absurd ⟨[], name, rfl, unclosed⟩ closed
  | goesOn c rest plain ih =>
    rw [expand_cons plain]
    refine .copied ?_ (ih fun h => closed (h.append [c]))
    rintro ⟨name, behind, -, same⟩
    exact plain _ (same.trans (reference_append name behind))

/-- **The first reference that is left open is expanded as if it were closed**, after what
comes before it. -/
theorem OpensAt.expand_eq (h : OpensAt text before name) (env : Environment) :
    env.expand text = env.expand before ++ env.resolve name := by
  obtain ⟨rfl, unclosed, first⟩ := h
  induction before using readingInduction with
  | ends => rw [List.nil_append, expand_unclosed env unclosed, expand, List.nil_append]
  | refers other rest named ih =>
    rw [List.append_assoc, expand_reference env named, expand_reference env named,
      List.append_assoc, ih fun h => first (h.append _)]
  | opens other unclosed' => exact absurd ⟨[], other, rfl, unclosed'⟩ first
  | goesOn c rest plain ih =>
    -- the dollar sign that follows does not make a reference of what stands before it
    have plain' : ∀ r, c :: (rest ++ '$' :: '\x7b' :: name) ≠ '$' :: '\x7b' :: r := by
      intro r same
      cases rest with
      | nil => simp at same
      | cons d rest =>
        obtain ⟨rfl, behind⟩ := List.cons.inj same
        obtain ⟨rfl, -⟩ := List.cons.inj behind
        exact plain rest rfl
    rw [List.cons_append, expand_cons plain', expand_cons plain, List.cons_append,
      ih fun h => first (h.append [c])]

/-! ## Where the two part -/

/-- Behind the first reference that is left open nothing is replaced. -/
theorem OpensAt.passes (h : OpensAt text before name) (env : Environment) :
    Passes env text (env.expand before ++ '$' :: '\x7b' :: name) := by
  rw [h.text_eq]
  refine (passes_expand env h.first).append_unclosed ?_
  simp [h.unclosed]

/-- **Of every text a pass makes something, and nothing else.** -/
theorem existsUnique_passes (env : Environment) (text : List Char) :
    ∃! out, Passes env text out := by
  by_cases opened : LeavesOpen text
  · obtain ⟨before, name, first⟩ := opened.exists_opensAt
    exact ⟨_, first.passes env, fun _ other => other.unique (first.passes env)⟩
  · exact ⟨_, passes_expand env opened, fun _ other => other.unique (passes_expand env opened)⟩

/-- What is named before the first reference that is left open is named in the text: all
references there are closed, so that no name goes on behind them. -/
theorem OpensAt.names (h : OpensAt text before name) {other : List Char}
    (occurs : Names before other) : Names text other := by
  obtain ⟨front, rest, rfl, rfl⟩ := occurs
  have closed : '\x7d' ∈ rest := by
    by_contra unclosed
    exact h.first ⟨front, rest, rfl, unclosed⟩
  obtain ⟨other, behind, rfl, runs⟩ := List.eq_append_cons_of_mem closed
  refine ⟨front, other ++ '\x7d' :: (behind ++ '$' :: '\x7b' :: name), ?_, ?_⟩
  · rw [h.text_eq]
    simp
  · rw [takeWhile_of_closed runs, takeWhile_of_closed runs]

/-- What stands for a reference that is left open is the reference itself only if that
happens to be the value of its name. -/
theorem resolve_eq_unclosed_iff (env : Environment) (name : List Char) :
    env.resolve name = '$' :: '\x7b' :: name
      ↔ env (String.ofList name) = some (String.ofList ('$' :: '\x7b' :: name)) := by
  unfold resolve
  cases env (String.ofList name) with
  | none => simp [reference]
  | some value =>
    rw [Option.map_some, Option.getD_some, Option.some.injEq, ← String.toList_inj,
      String.toList_ofList]

/-- **The expansion is one pass, but for a reference that is left open.** What a pass makes of
a text is determined. The expansion makes that of it unless a reference is left open, or if
the value of its name happens to be what is there. If one is left open, all that comes before
is expanded in one pass, and what stands for the reference is put in its place as if it were
closed. So where no name is set that occurs in the text, the expansion is the text itself, or
else the text with a closing brace behind it. -/
theorem expansion_is_one_pass_iff (env : Environment) (text : List Char) :
    (∃! out, Passes env text out)
      ∧ (Passes env text (env.expand text)
        ↔ ∀ before name, OpensAt text before name →
            env (String.ofList name) = some (String.ofList ('$' :: '\x7b' :: name)))
      ∧ (∀ before name, OpensAt text before name →
          ∃ out, Passes env before out ∧ env.expand text = out ++ env.resolve name)
      ∧ ((∀ name, Names text name → env (String.ofList name) = none) →
          (¬LeavesOpen text → env.expand text = text)
            ∧ (LeavesOpen text → env.expand text = text ++ ['\x7d'])) := by
  refine ⟨existsUnique_passes env text, ⟨fun passes before name first => ?_, fun same => ?_⟩,
    fun before name first => ⟨_, passes_expand env first.first, first.expand_eq env⟩,
    fun unset => ⟨fun closed => (passes_expand env closed).eq_of_unset unset, fun opened => ?_⟩⟩
  · -- the pass copies what the expansion resolves
    rw [first.expand_eq env] at passes
    have alike := passes.unique (first.passes env)
    exact (resolve_eq_unclosed_iff env name).mp (List.append_cancel_left alike)
  · by_cases opened : LeavesOpen text
    · obtain ⟨before, name, first⟩ := opened.exists_opensAt
      rw [first.expand_eq env, (resolve_eq_unclosed_iff env name).mpr (same before name first)]
      exact first.passes env
    · exact passes_expand env opened
  · obtain ⟨before, name, first⟩ := opened.exists_opensAt
    have here : env (String.ofList name) = none := unset name
      ⟨before, name, first.text_eq, (List.takeWhile_eq_self_iff.mpr (ne_brace first.unclosed)).symm⟩
    have kept : env.expand before = before :=
      (passes_expand env first.first).eq_of_unset fun other occurs =>
        unset other (first.names occurs)
    rw [first.expand_eq env, kept, resolve, here, first.text_eq]
    simp [reference]

/-- A value that itself looks like a reference, put in for a reference that is left open. -/
theorem expansion_is_one_pass_iff_open :
    let env : Environment := fun name => if name = "A" then some "$\x7bB\x7d" else none
    let before := "$$\x7bA\x7d$\x7bC$\x7bA\x7d".toList
    let text := before ++ "$\x7bA".toList
    OpensAt text before ['A']
      ∧ (∃ out, Passes env before out ∧ env.expand text = out ++ "$\x7bB\x7d".toList)
      ∧ ¬Passes env text (env.expand text) := by
  intro env before text
  have first : OpensAt text before ['A'] :=
    ⟨by decide +kernel, by decide, not_leavesOpen_of_closed "$$\x7bA\x7d$\x7bC$\x7bA".toList⟩
  obtain ⟨-, passes_iff, opened, -⟩ := expansion_is_one_pass_iff env text
  refine ⟨first, opened before ['A'] first, fun passes => ?_⟩
  have same := passes_iff.mp passes before ['A'] first
  exact absurd same (by decide +kernel)

/-- **A reference to nothing that is left open is closed**, although no name is set. -/
theorem open_reference_is_closed_by_expansion :
    let env : Environment := fun _ => none
    let text := ['$', '\x7b', 'A']
    (∀ name, Names text name → env (String.ofList name) = none)
      ∧ Passes env text text
      ∧ env.expand text = text ++ ['\x7d']
      ∧ env.expand text ≠ text
      ∧ ¬Passes env text (env.expand text) := by
  intro env text
  have unclosed : '\x7d' ∉ text := by decide
  have closed : env.expand text = text ++ ['\x7d'] := expand_unclosed env (by decide)
  have changed : env.expand text ≠ text := by
    rw [closed]
    decide
  refine ⟨fun _ _ => rfl, passes_of_unclosed unclosed, closed, changed, fun passes => ?_⟩
  exact changed (passes.unique (passes_of_unclosed unclosed))

end Environment

end AgentWorkflow
