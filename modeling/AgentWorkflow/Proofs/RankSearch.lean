import AgentWorkflow.Proofs.Ranking

/-!
# The search for ranks, turn by turn

To rank the nodes of a graph, each of them is visited in turn, and a visit is a loop that
keeps a stack (`Graph.Search.visit`). All visits share their marks. This module is about the
turns of that loop (`Graph.Search.Turns`): how many there can be, and what is so whenever one
begins.

**The end.** There is no counter that runs down. A turn drops one predecessor from the stack or
takes a finished node off it, and it may put a node on top with all that this one reads. What
has to be counted, then, is what the stack holds and also what the nodes that were not met yet
are going to bring (`Graph.Search.work`). A node that is put on the stack was not met before,
and it is the only one of its id, so it brings what was counted for it and counts no more. It
follows that every turn takes the same piece off the work (`Graph.Search.work_step`). This rests
on the marks: were a node on the stack not marked, it would be counted a second time when it
leaves.

**Pushed once.** Marks are only added, and a node is marked as being in progress at the moment
it is put on the stack, so the marks record all that were (`Graph.Search.pushed_step`). Being
marked, none of them is put there again, neither in the same visit nor in a later one.

**Answers that are not given.** The loop reports a circle from the place on the stack of the
node that closes it. That node is in progress and therefore on the stack
(`Graph.Search.Regular.met_on_stack`). The loop answers with the rank of the last node that
leaves the stack. The one that was visited stays at the bottom (`Graph.Search.AtBottom`), so
the stack is empty only when that one is done, and its rank is the answer. What the search
would say otherwise, should the node not be found or the stack be empty from the start, is
never said (`Graph.Search.visits_end_in_order`).
-/

namespace AgentWorkflow

namespace Graph

namespace Search

variable {g : Graph} {marks marks' : List (String × Mark)} {start s s' : Search}
  {id root : String} {n : Nat}

/-! ## Turns -/

/-- **Where the search is after so many turns.** A turn begins if there is a node on the
stack. -/
inductive Turns (g : Graph) (start : Search) : Nat → Search → Prop
  /-- It begins at the start. -/
  | start : Turns g start 0 start
  /-- One more turn is a step. -/
  | turn {n : Nat} {s s' : Search} (before : Turns g start n s) (going : s.stack ≠ [])
      (next : step g s = .ok s') : Turns g start (n + 1) s'

/-- **The loop ends here**: nothing is left on the stack, or the step finds a circle. -/
def Ends (g : Graph) (s : Search) : Prop := s.stack = [] ∨ ∃ ids, step g s = .error ids

theorem Turns.regular (turns : Turns g start n s) (regular : Regular g start) :
    Regular g s := by
  induction turns with
  | start => exact regular
  | turn _ _ next ih => exact ih.step next

/-- The rest of a search is the search from there. -/
theorem Turns.run_eq (turns : Turns g start n s) : run g start = run g s := by
  induction turns with
  | start => rfl
  | turn _ _ next ih => exact ih.trans (run_of_step next)

theorem run_of_stack_eq_nil (empty : s.stack = []) : run g s = .ok s.marks := by
  rw [run, dif_pos empty]

/-- The loop makes another turn or has ended before. -/
theorem turns_or_ends (g : Graph) (start : Search) (n : Nat) :
    (∃ s, Turns g start n s) ∨ ∃ m s, Turns g start m s ∧ Ends g s := by
  induction n with
  | zero => exact Or.inl ⟨start, .start⟩
  | succ n ih =>
    obtain ⟨s, turns⟩ | ended := ih
    · by_cases going : s.stack = []
      · exact Or.inr ⟨n, s, turns, Or.inl going⟩
      · cases next : step g s with
        | ok s' => exact Or.inl ⟨s', turns.turn going next⟩
        | error ids => exact Or.inr ⟨n, s, turns, Or.inr ⟨ids, next⟩⟩
    · exact Or.inr ended

/-! ## Work -/

/-- The nodes that were not met. -/
def unmet (g : Graph) (marks : List (String × Mark)) : List String :=
  g.ids.filter fun id => (marks.lookup id).isNone

/-- **What the nodes that were not met are going to bring**: what would be left to do if all of
them were put on the stack. -/
def left (g : Graph) (marks : List (String × Mark)) : Nat :=
  remaining ((unmet g marks).map (Frame.enter g))

/-- **The work of a search**: what is left on the stack, and what is going to be put there. -/
def work (g : Graph) (s : Search) : Nat := remaining s.stack + left g s.marks

/-- A node that is marked has been met, and no other is. -/
theorem unmet_cons (g : Graph) (marks : List (String × Mark)) (id : String) (m : Mark) :
    unmet g ((id, m) :: marks) = (unmet g marks).erase id := by
  have distinct : (unmet g marks).Nodup := g.distinct.filter _
  rw [distinct.erase_eq_filter, unmet, unmet, List.filter_filter]
  refine List.filter_congr fun other _ => ?_
  rw [List.lookup_cons]
  by_cases here : other = id
  · simp [here]
  · simp [here, beq_eq_false_iff_ne.mpr here]

/-- Without one of its nodes, a stack has so much less left. -/
theorem remaining_erase (g : Graph) {ids : List String} (there : id ∈ ids) :
    (Frame.enter g id).pending.length + 1 + remaining ((ids.erase id).map (Frame.enter g))
      = remaining (ids.map (Frame.enter g)) := by
  induction ids with
  | nil => cases there
  | cons other ids ih =>
    by_cases here : other = id
    · rw [here, List.erase_cons_head, List.map_cons, remaining_cons]
    · have deeper := ih ((List.mem_cons.mp there).resolve_left (Ne.symm here))
      rw [List.erase_cons_tail (by simp [here]), List.map_cons, List.map_cons, remaining_cons,
        remaining_cons, ← deeper]
      omega

/-- Marking a node that was met brings nothing new. -/
theorem left_cons_of_met (m : Mark) (met : (marks.lookup id).isSome = true) :
    left g ((id, m) :: marks) = left g marks := by
  have absent : id ∉ unmet g marks := fun there => by
    simp [Option.isNone_iff_eq_none.mp (List.mem_filter.mp there).2] at met
  rw [left, unmet_cons, List.erase_of_not_mem absent, left]

/-- **Marking a node that was not met** takes off what it brings. -/
theorem left_cons_of_unmet (m : Mark) (known : g.contains id = true)
    (unmet : marks.lookup id = none) :
    (Frame.enter g id).pending.length + 1 + left g ((id, m) :: marks) = left g marks := by
  have there : id ∈ Search.unmet g marks :=
    List.mem_filter.mpr ⟨List.contains_iff_mem.mp known, by rw [unmet]; rfl⟩
  rw [left, unmet_cons, left]
  exact remaining_erase g there

/-- **Pushing a node makes no work**: it was counted among those that were not met. -/
theorem work_push (known : g.contains id = true) (unmet : marks.lookup id = none)
    (stack : List Frame) : work g (push g ⟨stack, marks⟩ id) = work g ⟨stack, marks⟩ := by
  have brought := left_cons_of_unmet .inProgress known unmet
  show remaining (Frame.enter g id :: stack) + left g ((id, .inProgress) :: marks)
    = remaining stack + left g marks
  rw [remaining_cons]
  omega

/-- **Every turn does one piece of the work.** -/
theorem work_step (regular : Regular g s) (going : s.stack ≠ []) (next : step g s = .ok s') :
    work g s' + 1 = work g s := by
  have way := steps g s
  rw [next] at way
  cases way with
  | rest => exact absurd rfl going
  | leave id rank below marks =>
    have met : marks.lookup id = some .inProgress := regular.inProgress.mpr List.mem_cons_self
    have same := left_cons_of_met (g := g) (.done rank) (Option.isSome_of_eq_some met)
    show remaining (raise (rank + 1) below) + left g ((id, .done rank) :: marks) + 1
      = remaining (⟨id, [], rank⟩ :: below) + left g marks
    rw [remaining_raise, remaining_cons, same, List.length_nil]
    omega
  | pass | count =>
    simp only [work, remaining_cons, List.length_cons]
    omega
  | @enter id source pending rank below marks known unmet =>
    have pushing := work_push known unmet (⟨id, pending, rank⟩ :: below)
    show work g (push g ⟨⟨id, pending, rank⟩ :: below, marks⟩ source) + 1 = _
    rw [pushing]
    simp only [work, remaining_cons, List.length_cons]
    omega

/-- The turns count the work that has been done. -/
theorem Turns.work_eq (turns : Turns g start n s) (regular : Regular g start) :
    n + work g s = work g start := by
  induction turns with
  | start => exact Nat.zero_add _
  | turn before going next ih =>
    have less := work_step (before.regular regular) going next
    omega

/-- **The loop ends.** -/
theorem exists_turns_ends (regular : Regular g start) :
    ∃ n s, Turns g start n s ∧ Ends g s := by
  obtain ⟨s, turns⟩ | ended := turns_or_ends g start (work g start + 1)
  · -- there is no work left for so many turns
    have counted := turns.work_eq regular
    omega
  · exact ended

/-! ## What the marks record -/

/-- **The nodes that were put on the stack**, according to the marks. -/
def pushed (marks : List (String × Mark)) : List String :=
  (marks.filter fun entry => entry.2 = .inProgress).map Prod.fst

theorem mem_pushed_isSome (there : id ∈ pushed marks) : (marks.lookup id).isSome = true := by
  obtain ⟨entry, recorded, rfl⟩ := List.mem_map.mp there
  exact List.lookup_isSome_iff.mpr ⟨entry, (List.mem_filter.mp recorded).1, beq_self_eq_true _⟩

/-- A node that was not met is not recorded yet. -/
theorem nodup_pushed_cons (once : (pushed marks).Nodup) (unmet : marks.lookup id = none) :
    (id :: pushed marks).Nodup := by
  refine List.nodup_cons.mpr ⟨fun there => ?_, once⟩
  simpa [unmet] using mem_pushed_isSome there

/-- A turn puts nothing on the stack and records nothing, or it puts a node there that was not met
before, and records it. -/
theorem pushed_step_cases (next : step g s = .ok s') :
    (pushed s'.marks = pushed s.marks ∧ s'.stack.length ≤ s.stack.length)
      ∨ ∃ id, s.marks.lookup id = none ∧ pushed s'.marks = id :: pushed s.marks
        ∧ s'.stack.map Frame.id = id :: s.stack.map Frame.id := by
  have way := steps g s
  rw [next] at way
  cases way with
  | rest | pass | count => exact Or.inl ⟨rfl, le_rfl⟩
  | leave id rank below marks =>
    refine Or.inl ⟨rfl, ?_⟩
    show (raise (rank + 1) below).length ≤ below.length + 1
    rw [← List.length_map Frame.id, map_id_raise, List.length_map]
    exact Nat.le_succ _
  | @enter id source pending rank below marks known unmet =>
    exact Or.inr ⟨source, unmet, rfl, rfl⟩

/-- The nodes that one search has on top of what another one has on its stack. -/
def entered (s s' : Search) : List String :=
  (s'.stack.map Frame.id).take (s'.stack.length - s.stack.length)

/-- **What a turn records** is what it puts on the stack. -/
theorem pushed_step (next : step g s = .ok s') :
    pushed s'.marks = entered s s' ++ pushed s.marks := by
  unfold entered
  obtain ⟨same, shorter⟩ | ⟨id, -, more, higher⟩ := pushed_step_cases next
  · rw [Nat.sub_eq_zero_of_le shorter, List.take_zero, same, List.nil_append]
  · have grown : s'.stack.length = s.stack.length + 1 := by
      simpa using congrArg List.length higher
    rw [grown, Nat.add_sub_cancel_left, higher, more]
    rfl

/-- **No node is put on the stack twice.** -/
theorem nodup_pushed_step (once : (pushed s.marks).Nodup) (next : step g s = .ok s') :
    (pushed s'.marks).Nodup := by
  obtain ⟨same, -⟩ | ⟨id, unmet, more, -⟩ := pushed_step_cases next
  · rwa [same]
  · rw [more]
    exact nodup_pushed_cons once unmet

/-! ## The node that is visited -/

/-- **The node stays at the bottom of the stack** until it leaves as the last one. Then its
rank is the latest mark. -/
def AtBottom (root : String) (s : Search) : Prop :=
  (s.stack.map Frame.id).getLast? = some root
    ∨ s.stack = [] ∧ ∃ rank before, s.marks = (root, .done rank) :: before

theorem AtBottom.step (bottom : AtBottom root s) (going : s.stack ≠ [])
    (next : Search.step g s = .ok s') : AtBottom root s' := by
  have bottom : (s.stack.map Frame.id).getLast? = some root :=
    bottom.resolve_right fun done => going done.1
  have way := steps g s
  rw [next] at way
  cases way with
  | rest => exact absurd rfl going
  | leave id rank below marks =>
    cases below with
    | nil =>
      obtain rfl : id = root := Option.some.inj bottom
      exact Or.inr ⟨rfl, rank, marks, rfl⟩
    | cons f below =>
      refine Or.inl ?_
      rw [map_id_raise]
      exact List.getLast?_cons_cons.symm.trans bottom
  | pass | count => exact Or.inl bottom
  | enter => exact Or.inl (List.getLast?_cons_cons.trans bottom)

/-- **The node that closes a circle is on the stack**, and the circle is the stack from there
on. -/
theorem Regular.met_on_stack {ids : List String} (regular : Regular g s)
    (found : Search.step g s = .error ids) :
    ∃ below met above, (s.stack.map Frame.id).reverse = below ++ met :: above
      ∧ ids = met :: above ++ [met] := by
  have way := steps g s
  rw [found] at way
  cases way with
  | @close id next pending rank stack marks known met =>
    obtain ⟨below, above, split, eq⟩ :=
      exists_circle_eq (⟨id, next :: pending, rank⟩ :: stack) (regular.inProgress.mp met)
    exact ⟨below, next, above, split, eq⟩

/-! ## Visits -/

/-- **What is so whenever a turn begins**, where the marks are those of all visits so far. -/
structure Orderly (g : Graph) (root : String) (s : Search) : Prop where
  /-- No node is on the stack twice. -/
  distinct : (s.stack.map Frame.id).Nodup
  /-- The nodes in progress are those on the stack. -/
  inProgress : ∀ id, s.marks.lookup id = some .inProgress ↔ id ∈ s.stack.map Frame.id
  /-- All that a node reads is done if the node is, and has a lower rank. -/
  done : ∀ id rank, s.marks.lookup id = some (.done rank) → ∀ source, g.Reads id source →
    ∃ lower < rank, s.marks.lookup source = some (.done lower)
  /-- No node was put on the stack twice. -/
  once : (pushed s.marks).Nodup
  /-- The stack is not empty before the visited node is done. -/
  bottom : AtBottom root s

/-- The marks between two visits: nothing is in progress. -/
structure Calm (g : Graph) (marks : List (String × Mark)) : Prop where
  /-- A search with nothing on the stack would be in order. -/
  regular : Regular g ⟨[], marks⟩
  /-- No node was put on the stack twice. -/
  once : (pushed marks).Nodup

namespace Calm

theorem empty (g : Graph) : Calm g [] := ⟨.empty g, List.nodup_nil⟩

theorem done (calm : Calm g marks) (met : marks.lookup id ≠ none) :
    ∃ rank, marks.lookup id = some (.done rank) := by
  obtain ⟨m, marked⟩ := Option.ne_none_iff_exists'.mp met
  cases m with
  | inProgress => cases calm.regular.inProgress.mp marked
  | done rank => exact ⟨rank, marked⟩

variable (calm : Calm g marks) (known : g.contains id = true) (unmet : marks.lookup id = none)
include calm known unmet

theorem regular_push : Regular g (push g ⟨[], marks⟩ id) :=
  calm.regular.push known unmet rfl trivial

/-- **Every turn of a visit begins in order.** -/
theorem orderly (turns : Turns g (push g ⟨[], marks⟩ id) n s) : Orderly g id s := by
  have recorded : (pushed s.marks).Nodup ∧ AtBottom id s := by
    induction turns with
    | start => exact ⟨nodup_pushed_cons calm.once unmet, Or.inl rfl⟩
    | turn _ going next ih => exact ⟨nodup_pushed_step ih.1 next, ih.2.step going next⟩
  have regular := turns.regular (calm.regular_push known unmet)
  refine ⟨regular.distinct, fun _ => regular.inProgress, fun id rank marked source reads => ?_,
    recorded.1, recorded.2⟩
  -- nothing is left to be looked at, and nothing stands above a node that is done
  obtain none | none | lower := (regular.done marked).lower reads
  · cases none
  · cases none
  · exact lower

/-- **A visit ends**, and its result is that of the turn in which it does. -/
theorem exists_end : ∃ n s, Turns g (push g ⟨[], marks⟩ id) n s
    ∧ ((s.stack = [] ∧ visit g marks id = .ok s.marks)
      ∨ ∃ ids, step g s = .error ids ∧ visit g marks id = .error ids) := by
  obtain ⟨n, s, turns, ends⟩ := exists_turns_ends (calm.regular_push known unmet)
  have visited : visit g marks id = run g s := by
    rw [← turns.run_eq]
    unfold visit
    rw [unmet]
  refine ⟨n, s, turns, ends.imp (fun empty => ⟨empty, ?_⟩) fun ⟨ids, found⟩ => ⟨ids, found, ?_⟩⟩
  · rw [visited, run_of_stack_eq_nil empty]
  · rw [visited, run_of_circle found]

end Calm

/-- **After a visit nothing is in progress.** -/
theorem Calm.visit (calm : Calm g marks) (known : g.contains id = true)
    (visited : Search.visit g marks id = .ok marks') : Calm g marks' := by
  cases found : marks.lookup id with
  | some m =>
    unfold Search.visit at visited
    rw [found] at visited
    exact Except.ok.inj visited ▸ calm
  | none =>
    obtain ⟨n, s, turns, ⟨empty, ended⟩ | ⟨ids, -, failed⟩⟩ := calm.exists_end known found
    · obtain rfl : s.marks = marks' := Except.ok.inj (ended.symm.trans visited)
      obtain ⟨stack, marks⟩ := s
      obtain rfl : stack = [] := empty
      exact ⟨turns.regular (calm.regular_push known found),
        (calm.orderly known found turns).once⟩
    · cases failed.symm.trans visited

theorem Calm.foldlM_visit {ids : List String} (calm : Calm g marks)
    (known : ∀ id ∈ ids, g.contains id = true)
    (visited : ids.foldlM (Search.visit g) marks = .ok marks') : Calm g marks' := by
  induction ids generalizing marks with
  | nil => exact Except.ok.inj visited ▸ calm
  | cons id ids ih =>
    rw [List.foldlM_cons] at visited
    cases first : Search.visit g marks id with
    | error circle =>
      rw [first] at visited
      cases visited
    | ok next =>
      rw [first] at visited
      exact ih (calm.visit (known id List.mem_cons_self) first)
        (fun other there => known other (List.mem_cons_of_mem id there)) visited

/-- **The search for ranks goes in order and comes to an end.** Let the nodes up to some node
have been visited, and no circle have been found. They are done then. Either the next one is done
as well, and visiting it changes nothing. Or it was not met, and the loop begins with it. Each
turn of this loop begins in order, each one before it has done its piece of the work, and what a
turn puts on the stack is recorded. If a turn finds a circle, then the node that closes it is on
the stack, and the circle is the stack from there on. And there is a turn in which the loop ends:
it finds a circle, or the node was the last to leave the stack. -/
theorem visits_end_in_order {before after : List String} {id : String}
    (split : g.ids = before ++ id :: after) (visited : before.foldlM (visit g) [] = .ok marks) :
    let start := push g ⟨[], marks⟩ id
    (∀ other ∈ before, ∃ rank, marks.lookup other = some (.done rank))
      ∧ ((∃ rank, marks.lookup id = some (.done rank) ∧ visit g marks id = .ok marks)
        ∨ marks.lookup id = none
          ∧ (∀ n s, Turns g start n s → Orderly g id s ∧ n + work g s = left g marks
            ∧ (∀ s', step g s = .ok s' → pushed s'.marks = entered s s' ++ pushed s.marks)
            ∧ ∀ ids, step g s = .error ids → ∃ below met above,
              (s.stack.map Frame.id).reverse = below ++ met :: above ∧ ids = met :: above ++ [met])
          ∧ ∃ n s, Turns g start n s
            ∧ ((s.stack = [] ∧ visit g marks id = .ok s.marks
                ∧ ∃ rank, s.marks.lookup id = some (.done rank))
              ∨ ∃ ids, step g s = .error ids ∧ visit g marks id = .error ids)) := by
  have all : ∀ other ∈ before ++ id :: after, g.contains other = true := fun other there =>
    List.contains_iff_mem.mpr (split ▸ there)
  have earlier : ∀ other ∈ before, g.contains other = true := fun other there =>
    all other (List.mem_append_left _ there)
  have known : g.contains id = true := all id (List.mem_append_right _ List.mem_cons_self)
  have calm : Calm g marks := (Calm.empty g).foldlM_visit earlier visited
  refine ⟨fun other there => calm.done fun none => ?_, ?_⟩
  · obtain ⟨marks', same, -, met⟩ | ⟨circle, failed, -⟩ :=
      foldlM_visit_cases (Regular.empty g) earlier
    · obtain rfl : marks = marks' := Except.ok.inj (visited.symm.trans same)
      simpa [none] using met other (Or.inr there)
    · cases failed.symm.trans visited
  · by_cases unmet : marks.lookup id = none
    · refine Or.inr ⟨unmet, fun n s turns => ?_, ?_⟩
      · have regular := calm.regular_push known unmet
        refine ⟨calm.orderly known unmet turns, ?_, fun _ => pushed_step,
          fun _ => (turns.regular regular).met_on_stack⟩
        rw [turns.work_eq regular, work_push known unmet]
        exact Nat.zero_add _
      · obtain ⟨n, s, turns, ended⟩ := calm.exists_end known unmet
        refine ⟨n, s, turns, ended.imp_left fun ⟨empty, result⟩ => ⟨empty, result, ?_⟩⟩
        obtain there | ⟨-, rank, marks', latest⟩ := (calm.orderly known unmet turns).bottom
        · rw [empty] at there
          cases there
        · exact ⟨rank, latest ▸ List.lookup_cons_self⟩
    · obtain ⟨rank, done⟩ := calm.done unmet
      refine Or.inl ⟨rank, done, ?_⟩
      unfold visit
      rw [done]

/-- A node that reads one visited before it. -/
def linked : Graph where
  nodes := [.reading "first" [], .reading "second" ["first", "lost"]]
  distinct := by decide

/-- The first is done when the second is visited. Three things are to do then: to look at the
first, to pass over the node that is not there, and to leave. -/
theorem visits_end_in_order_of_linked :
    let marks : List (String × Mark) := [("first", .done 0), ("first", .inProgress)]
    let start := push linked ⟨[], marks⟩ "second"
    ["first"].foldlM (visit linked) [] = .ok marks ∧ left linked marks = 3
      ∧ ∃ n s, Turns linked start n s ∧ Orderly linked "second" s ∧ n + work linked s = 3
        ∧ s.stack = [] ∧ visit linked marks "second" = .ok s.marks := by
  intro marks start
  have visited : ["first"].foldlM (visit linked) [] = .ok marks := by
    have first : visit linked [] "first" = .ok marks := by
      show run linked (push linked ⟨[], []⟩ "first") = _
      rw [run_of_step rfl]
      exact run_of_stack_eq_nil rfl
    rw [List.foldlM_cons, first]
    rfl
  have ranked : visit linked marks "second"
      = .ok (("second", .done 1) :: ("second", .inProgress) :: marks) := by
    show run linked start = _
    rw [run_of_step rfl, run_of_step rfl, run_of_step rfl]
    exact run_of_stack_eq_nil rfl
  obtain ⟨-, ⟨rank, done, -⟩ | ⟨-, turning, n, s, turns, ended⟩⟩ :=
    @visits_end_in_order linked marks ["first"] [] "second" rfl visited
  · cases done
  · obtain ⟨orderly, counted, -⟩ := turning n s turns
    obtain ⟨empty, result, -⟩ | ⟨ids, -, failed⟩ := ended
    · exact ⟨visited, rfl, n, s, turns, orderly, counted, empty, result⟩
    · cases failed.symm.trans ranked

end Search

end Graph

end AgentWorkflow
