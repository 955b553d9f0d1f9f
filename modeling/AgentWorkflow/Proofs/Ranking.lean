import AgentWorkflow.Graph.Layout
import AgentWorkflow.Proofs.Chains
import Mathlib.Data.List.Nodup

/-!
# The search for ranks

Ranks are found by a search that goes down the stack of nodes in progress and looks at one
predecessor at a time (`Graph.Search.step`). It comes to an end at every graph, and either
way out of it is right: the numbers it gives rank the nodes, and the circle it meets is
one (`Graph.ranks_cases`). So a graph can be laid out exactly if it has no circle.

**The invariant** says of each node how far the search has come with it. Of what a node on
the stack reads, some has not been looked at, one may be the node above it on the stack,
and all else is done and has a rank below the one the node has got so far
(`Graph.Frame.Accounted`). That rank is not higher than what was looked at makes it. A node
that leaves the stack has looked at everything and has nothing above it, so what is known
of it then is the equation for its rank; a node that is done is, in this sense, a frame
that is finished (`Graph.Search.Regular`).

**Circles.** The nodes on the stack read one another from the bottom to the top, no two of
them are the same, and they are exactly the nodes in progress. If the topmost one reads a
node in progress, then this node is found on the stack, and from there on the stack is a
circle.
-/

namespace AgentWorkflow

namespace Graph

variable {g : Graph} {marks marks' : List (String × Mark)}

/-! ## Frames -/

/-- Whatever is done by the first marks is done by the second. -/
def KeepsDone (marks marks' : List (String × Mark)) : Prop :=
  ∀ {id : String} {rank : Nat}, marks.lookup id = some (.done rank) →
    marks'.lookup id = some (.done rank)

/-- **How far the search has come with a node**, where the node that stands above it on the
stack is given. -/
structure Frame.Accounted (g : Graph) (marks : List (String × Mark)) (above : Option String)
    (f : Frame) : Prop where
  /-- It is a node of the graph. -/
  known : g.contains f.id = true
  /-- It reads what is left to be looked at. -/
  pending : ∀ next ∈ f.pending, g.contains next = true → g.Reads f.id next
  /-- It reads the node above it. -/
  reads_above : ∀ next ∈ above, g.Reads f.id next
  /-- All else that it reads is done, and has a lower rank. -/
  lower : ∀ {source : String}, g.Reads f.id source → source ∈ f.pending ∨ source ∈ above
    ∨ ∃ rank < f.rank, marks.lookup source = some (.done rank)
  /-- Its rank is not higher than this makes it. -/
  attained : f.rank = 0 ∨ ∃ source rank, g.Reads f.id source
    ∧ marks.lookup source = some (.done rank) ∧ f.rank = rank + 1

namespace Frame.Accounted

variable {above : Option String} {f : Frame} {id next : String}

theorem mono (accounted : f.Accounted g marks above) (keeps : KeepsDone marks marks') :
    f.Accounted g marks' above where
  known := accounted.known
  pending := accounted.pending
  reads_above := accounted.reads_above
  lower reads := by
    refine (accounted.lower reads).imp_right (Or.imp_right ?_)
    rintro ⟨rank, lower, done⟩
    exact ⟨rank, lower, keeps done⟩
  attained := by
    refine accounted.attained.imp_right ?_
    rintro ⟨source, rank, reads, done, above⟩
    exact ⟨source, rank, reads, keeps done, above⟩

/-- A node that was just met has everything before it. -/
theorem enter (g : Graph) (marks : List (String × Mark)) (known : g.contains id = true) :
    (Frame.enter g id).Accounted g marks none := by
  obtain ⟨n, hn, same⟩ := contains_iff.mp known
  have found : g.node? id = some n := node?_eq_some_iff.mpr ⟨hn, same⟩
  have pending : (Frame.enter g id).pending = n.predecessors := by
    unfold Frame.enter
    rw [found]
    rfl
  refine ⟨known, fun next mem there => ?_, nofun, fun reads => ?_, Or.inl rfl⟩
  · exact (reads_iff_of_node? found).mpr ⟨pending ▸ mem, there⟩
  · exact Or.inl (pending ▸ ((reads_iff_of_node? found).mp reads).1)

/-- A predecessor that is not in the graph does not count. -/
theorem pass {pending : List String} {rank : Nat}
    (accounted : Frame.Accounted g marks none ⟨id, next :: pending, rank⟩)
    (absent : g.contains next = false) : Frame.Accounted g marks none ⟨id, pending, rank⟩ where
  known := accounted.known
  pending source mem := accounted.pending source (List.mem_cons_of_mem next mem)
  reads_above := nofun
  lower {source} reads := by
    refine (accounted.lower reads).imp_left fun mem => (List.mem_cons.mp mem).resolve_left ?_
    rintro rfl
    exact Bool.false_ne_true (absent.symm.trans reads.known)
  attained := accounted.attained

/-- **What a node reads is done, and its rank counts**: the next one that was to be looked at, or
the one that stood above it. -/
theorem count {pending : List String} {reached : Nat} (accounted : f.Accounted g marks above)
    (reads : g.Reads f.id next) (done : marks.lookup next = some (.done reached))
    (left : ∀ source ∈ pending, source ∈ f.pending)
    (looked : ∀ source, source ∈ f.pending ∨ source ∈ above → source ∈ pending ∨ source = next) :
    Frame.Accounted g marks none ⟨f.id, pending, max f.rank (reached + 1)⟩ where
  known := accounted.known
  pending source mem := accounted.pending source (left source mem)
  reads_above := nofun
  lower {source} reads := by
    have settled : ∀ rank < f.rank, rank < max f.rank (reached + 1) := fun _ lower =>
      lower.trans_le (Nat.le_max_left _ _)
    obtain before | ⟨rank, lower, done⟩ := or_assoc.mpr (accounted.lower reads)
    · obtain later | rfl := looked source before
      · exact Or.inl later
      · exact Or.inr (Or.inr ⟨reached, Nat.le_max_right _ _, done⟩)
    · exact Or.inr (Or.inr ⟨rank, settled rank lower, done⟩)
  attained := by
    dsimp only
    obtain lower | higher := Nat.lt_or_ge f.rank (reached + 1)
    · rw [Nat.max_eq_right lower.le]
      exact Or.inr ⟨next, reached, reads, done, rfl⟩
    · rw [Nat.max_eq_left higher]
      exact accounted.attained

/-- The next one that is to be looked at goes above it. -/
theorem push {pending : List String} {rank : Nat}
    (accounted : Frame.Accounted g marks none ⟨id, next :: pending, rank⟩)
    (known : g.contains next = true) :
    Frame.Accounted g marks (some next) ⟨id, pending, rank⟩ where
  known := accounted.known
  pending source mem := accounted.pending source (List.mem_cons_of_mem next mem)
  reads_above source here := by
    obtain rfl := Option.some.inj here
    exact accounted.pending next List.mem_cons_self known
  lower {source} reads := by
    obtain before | none | done := accounted.lower reads
    · obtain rfl | later := List.mem_cons.mp before
      · exact Or.inr (Or.inl rfl)
      · exact Or.inl later
    · cases none
    · exact Or.inr (Or.inr done)
  attained := accounted.attained

end Frame.Accounted

namespace Search

/-! ## Steps -/

/-- **The ways a step can go.** -/
inductive Steps (g : Graph) : Search → Except (List String) Search → Prop
  /-- There is nothing left to do. -/
  | rest (marks : List (String × Mark)) : Steps g ⟨[], marks⟩ (.ok ⟨[], marks⟩)
  /-- The topmost node has looked at everything. It is done. -/
  | leave (id : String) (rank : Nat) (below : List Frame) (marks : List (String × Mark)) :
      Steps g ⟨⟨id, [], rank⟩ :: below, marks⟩
        (.ok ⟨raise (rank + 1) below, (id, .done rank) :: marks⟩)
  /-- The predecessor is not in the graph. -/
  | pass {id next : String} {pending : List String} {rank : Nat} {below : List Frame}
      {marks : List (String × Mark)} (absent : g.contains next = false) :
      Steps g ⟨⟨id, next :: pending, rank⟩ :: below, marks⟩
        (.ok ⟨⟨id, pending, rank⟩ :: below, marks⟩)
  /-- The predecessor is done, and its rank counts. -/
  | count {id next : String} {pending : List String} {rank reached : Nat} {below : List Frame}
      {marks : List (String × Mark)} (known : g.contains next = true)
      (done : marks.lookup next = some (.done reached)) :
      Steps g ⟨⟨id, next :: pending, rank⟩ :: below, marks⟩
        (.ok ⟨⟨id, pending, max rank (reached + 1)⟩ :: below, marks⟩)
  /-- The predecessor is in progress, which closes a circle. -/
  | close {id next : String} {pending : List String} {rank : Nat} {below : List Frame}
      {marks : List (String × Mark)} (known : g.contains next = true)
      (met : marks.lookup next = some .inProgress) :
      Steps g ⟨⟨id, next :: pending, rank⟩ :: below, marks⟩
        (.error (circle (⟨id, next :: pending, rank⟩ :: below) next))
  /-- The predecessor was not met before. It comes first. -/
  | enter {id next : String} {pending : List String} {rank : Nat} {below : List Frame}
      {marks : List (String × Mark)} (known : g.contains next = true)
      (unmet : marks.lookup next = none) :
      Steps g ⟨⟨id, next :: pending, rank⟩ :: below, marks⟩
        (.ok ⟨Frame.enter g next :: ⟨id, pending, rank⟩ :: below, (next, .inProgress) :: marks⟩)

/-- **A step goes one of these ways.** -/
theorem steps (g : Graph) (s : Search) : Steps g s (step g s) := by
  obtain ⟨stack, marks⟩ := s
  match stack with
  | [] => exact .rest marks
  | ⟨id, [], rank⟩ :: below => exact .leave id rank below marks
  | ⟨id, next :: pending, rank⟩ :: below =>
    unfold step
    dsimp only
    split
    · next known =>
      split
      · next done => exact .count known done
      · next met => exact .close known met
      · next unmet => exact .enter known unmet
    · next absent => exact .pass (Bool.eq_false_iff.mpr absent)

/-! ## The invariant -/

/-- How far the search has come with all nodes on the stack. -/
def Stacked (g : Graph) (marks : List (String × Mark)) : Option String → List Frame → Prop
  | _, [] => True
  | above, f :: below => f.Accounted g marks above ∧ Stacked g marks (some f.id) below

/-- **The search is in order.** -/
structure Regular (g : Graph) (s : Search) : Prop where
  /-- No node is on the stack twice. -/
  distinct : (s.stack.map Frame.id).Nodup
  /-- The nodes on the stack are those in progress. -/
  inProgress : ∀ {id : String},
    s.marks.lookup id = some .inProgress ↔ id ∈ s.stack.map Frame.id
  /-- Each of them has got as far as the search has come with it. -/
  stacked : Stacked g s.marks none s.stack
  /-- A node that is done is one with which the search has finished. -/
  done : ∀ {id : String} {rank : Nat}, s.marks.lookup id = some (.done rank) →
    Frame.Accounted g s.marks none ⟨id, [], rank⟩

theorem Stacked.mono {above : Option String} {stack : List Frame}
    (stacked : Stacked g marks above stack) (keeps : KeepsDone marks marks') :
    Stacked g marks' above stack := by
  induction stack generalizing above with
  | nil => trivial
  | cons f below ih => exact ⟨stacked.1.mono keeps, ih stacked.2⟩

/-- **Each node on the stack reads the one above it.** -/
theorem Stacked.isChain {above : Option String} {stack : List Frame}
    (stacked : Stacked g marks above stack) :
    (stack.map Frame.id).IsChain fun upper lower => g.Reads lower upper := by
  induction stack generalizing above with
  | nil => exact List.isChain_nil
  | cons f below ih =>
    cases below with
    | nil => exact List.isChain_singleton f.id
    | cons f' below =>
      exact List.isChain_cons_cons.mpr ⟨stacked.2.1.reads_above f.id rfl, ih stacked.2⟩

/-- **When the node above the stack is done**, its rank counts for the one that is on top
now. -/
theorem Stacked.raise {id : String} {rank : Nat} {stack : List Frame}
    (stacked : Stacked g marks (some id) stack) (done : marks.lookup id = some (.done rank)) :
    Stacked g marks none (raise (rank + 1) stack) := by
  cases stack with
  | nil => trivial
  | cons f below =>
    obtain ⟨top, rest⟩ := stacked
    refine ⟨top.count (top.reads_above id rfl) done (fun _ mem => mem) ?_, rest⟩
    rintro source (mem | above)
    · exact Or.inl mem
    · exact Or.inr (Option.some.inj above).symm

theorem map_id_raise (rank : Nat) (stack : List Frame) :
    (raise rank stack).map Frame.id = stack.map Frame.id := by
  cases stack <;> rfl

theorem keepsDone_cons {id : String} (m : Mark)
    (undone : ∀ rank, marks.lookup id ≠ some (.done rank)) :
    KeepsDone marks ((id, m) :: marks) := by
  intro other rank done
  rw [List.lookup_cons]
  split
  · next here => exact absurd (beq_iff_eq.mp here ▸ done) (undone rank)
  · exact done

namespace Regular

theorem empty (g : Graph) : Regular g ⟨[], []⟩ := ⟨List.nodup_nil, by simp, trivial, by simp⟩

/-- **A search stays in order when a node is met**, if the node below it has been told. -/
theorem push {s : Search} {id : String} {stack : List Frame} (regular : Regular g s)
    (known : g.contains id = true) (unmet : s.marks.lookup id = none)
    (same : stack.map Frame.id = s.stack.map Frame.id)
    (stacked : Stacked g s.marks (some id) stack) :
    Regular g (Search.push g ⟨stack, s.marks⟩ id) := by
  have keeps : KeepsDone s.marks ((id, .inProgress) :: s.marks) :=
    keepsDone_cons .inProgress fun _ done => by simp [unmet] at done
  have fresh : id ∉ stack.map Frame.id := fun there => by
    simp [regular.inProgress.mpr (same ▸ there)] at unmet
  refine ⟨List.nodup_cons.mpr ⟨fresh, same ▸ regular.distinct⟩, fun {other} => ?_,
    ⟨.enter g _ known, stacked.mono keeps⟩, fun {other rank} done => ?_⟩
  · show ((id, Mark.inProgress) :: s.marks).lookup other = _ ↔ other ∈ id :: stack.map Frame.id
    rw [List.lookup_cons, List.mem_cons, same, ← regular.inProgress]
    by_cases here : other = id
    · simp [here]
    · simp [here, beq_eq_false_iff_ne.mpr here]
  · change ((id, Mark.inProgress) :: s.marks).lookup other = _ at done
    rw [List.lookup_cons] at done
    split at done
    · cases done
    · exact (regular.done done).mono keeps

/-- **A search stays in order when a node leaves the stack.** -/
theorem leave {id : String} {rank : Nat} {below : List Frame}
    (regular : Regular g ⟨⟨id, [], rank⟩ :: below, marks⟩) :
    Regular g ⟨raise (rank + 1) below, (id, .done rank) :: marks⟩ := by
  obtain ⟨fresh, distinct⟩ := List.nodup_cons.mp regular.distinct
  obtain ⟨top, stacked⟩ := regular.stacked
  have current : marks.lookup id = some .inProgress :=
    regular.inProgress.mpr List.mem_cons_self
  have keeps : KeepsDone marks ((id, .done rank) :: marks) :=
    keepsDone_cons (.done rank) fun _ done => by simp [current] at done
  have here : ((id, Mark.done rank) :: marks).lookup id = some (.done rank) :=
    List.lookup_cons_self
  refine ⟨?_, fun {other} => ?_, (stacked.mono keeps).raise here, fun {other reached} done => ?_⟩
  · rw [map_id_raise]
    exact distinct
  · have before : marks.lookup other = some .inProgress ↔ other ∈ id :: below.map Frame.id :=
      regular.inProgress
    rw [List.mem_cons] at before
    rw [map_id_raise, List.lookup_cons]
    by_cases same : other = id
    · simpa [same] using fresh
    · simpa [same, beq_eq_false_iff_ne.mpr same] using before
  · rw [List.lookup_cons] at done
    split at done
    · next same =>
      obtain rfl : rank = reached := by simpa using done
      rw [beq_iff_eq.mp same]
      exact top.mono keeps
    · exact (regular.done done).mono keeps

/-- **Every step leaves the search in order.** -/
theorem step {s s' : Search} (regular : Regular g s) (next : Search.step g s = .ok s') :
    Regular g s' := by
  have way := steps g s
  rw [next] at way
  cases way with
  | rest => exact regular
  | leave => exact regular.leave
  | pass absent =>
    obtain ⟨distinct, inProgress, ⟨top, stacked⟩, done⟩ := regular
    exact ⟨distinct, inProgress, ⟨top.pass absent, stacked⟩, done⟩
  | count known reached =>
    obtain ⟨distinct, inProgress, ⟨top, stacked⟩, done⟩ := regular
    refine ⟨distinct, inProgress, ⟨?_, stacked⟩, done⟩
    refine top.count (top.pending _ List.mem_cons_self known) reached
      (fun _ mem => List.mem_cons_of_mem _ mem) ?_
    rintro source (mem | none)
    · exact (List.mem_cons.mp mem).symm
    · cases none
  | enter known unmet =>
    obtain ⟨top, stacked⟩ := regular.stacked
    exact regular.push known unmet rfl ⟨top.push known, stacked⟩

end Regular

/-! ## Circles -/

theorem Stacked.known {above : Option String} {stack : List Frame}
    (stacked : Stacked g marks above stack) {id : String} (there : id ∈ stack.map Frame.id) :
    g.contains id = true := by
  induction stack generalizing above with
  | nil => cases there
  | cons f below ih =>
    obtain rfl | deeper := List.mem_cons.mp there
    · exact stacked.1.known
    · exact ih stacked.2 deeper

/-- A circle is the stack from a node on it up, and that node again. -/
theorem exists_circle_eq (stack : List Frame) {next : String}
    (there : next ∈ stack.map Frame.id) :
    ∃ before after, (stack.map Frame.id).reverse = before ++ next :: after
      ∧ circle stack next = next :: after ++ [next] := by
  obtain ⟨before, after, split, apart⟩ := List.eq_append_cons_of_mem (List.mem_reverse.mpr there)
  refine ⟨before, after, split, ?_⟩
  have passed : ∀ id ∈ before, decide (id ≠ next) = true := fun id mem =>
    decide_eq_true fun same => apart (same ▸ mem)
  unfold circle
  rw [List.map_reverse, split, List.dropWhile_append_of_pos passed,
    List.dropWhile_cons_of_neg (by simp)]

/-- **What a step finds is a circle.** -/
theorem Regular.isCircle {s : Search} {ids : List String} (regular : Regular g s)
    (found : Search.step g s = .error ids) : g.IsCircle ids := by
  have way := steps g s
  rw [found] at way
  cases way with
  | @close id next pending rank below marks known met =>
    have there : next ∈ id :: below.map Frame.id := regular.inProgress.mp met
    obtain ⟨before, after, split, eq⟩ :=
      exists_circle_eq (⟨id, next :: pending, rank⟩ :: below) there
    have split : (id :: below.map Frame.id).reverse = before ++ next :: after := split
    have reads : g.Reads id next := regular.stacked.1.pending next List.mem_cons_self known
    rw [eq]
    refine ⟨by simp, List.getLast?_concat.symm, ?_, fun other mem => ?_, ?_⟩
    · rw [List.dropLast_concat]
      have all : (id :: below.map Frame.id).reverse.Nodup := List.nodup_reverse.mpr regular.distinct
      rw [split] at all
      exact all.of_append_right
    · obtain here | last := List.mem_append.mp mem
      · have on : other ∈ (id :: below.map Frame.id).reverse :=
          split ▸ List.mem_append_right before here
        exact regular.stacked.known (List.mem_reverse.mp on)
      · rwa [List.mem_singleton.mp last]
    · -- seen from below, the whole stack with the node on top of it is a chain
      have upwards := List.isChain_reverse.mpr
        (List.isChain_cons_cons.mpr ⟨reads, regular.stacked.isChain⟩)
      rw [List.reverse_cons, split, List.append_assoc] at upwards
      exact upwards.right_of_append

/-! ## Runs -/

theorem run_of_step {s s' : Search} (next : step g s = .ok s') : run g s = run g s' := by
  by_cases done : s.stack = []
  · obtain ⟨stack, marks⟩ := s
    obtain rfl : stack = [] := done
    rw [Except.ok.inj next]
  · rw [run, dif_neg done]
    split
    · next found => cases found.symm.trans next
    · next found => exact congrArg (run g) (Except.ok.inj (found.symm.trans next))

theorem run_of_circle {s : Search} {ids : List String} (found : step g s = .error ids) :
    run g s = .error ids := by
  have going : s.stack ≠ [] := fun done => by
    unfold step at found
    rw [done] at found
    cases found
  rw [run, dif_neg going]
  split
  · next found' => rw [Except.error.inj (found'.symm.trans found)]
  · next found' => cases found'.symm.trans found

/-- **What every step keeps is so at the end**, or at the step that finds a circle. -/
theorem run_cases {P : Search → Prop} (kept : ∀ {s s' : Search}, P s → step g s = .ok s' → P s')
    {s : Search} (hs : P s) :
    (∃ marks, run g s = .ok marks ∧ P ⟨[], marks⟩)
      ∨ ∃ s' ids, P s' ∧ step g s' = .error ids ∧ run g s = .error ids := by
  fun_induction run g s with
  | case1 s done =>
    obtain ⟨stack, marks⟩ := s
    obtain rfl : stack = [] := done
    exact Or.inl ⟨marks, rfl, hs⟩
  | case2 s _ ids found => exact Or.inr ⟨s, ids, hs, found, rfl⟩
  | case3 s _ s' next _ ih => exact ih (kept hs next)

theorem isSome_lookup_cons {id : String} (other : String) (m : Mark)
    (met : (marks.lookup id).isSome = true) :
    (((other, m) :: marks).lookup id).isSome = true := by
  rw [List.lookup_cons]
  split
  · rfl
  · exact met

/-- All of the nodes have been met, and whatever had been met before. -/
def Meets (before marks : List (String × Mark)) (ids : List String) : Prop :=
  ∀ id, (before.lookup id).isSome = true ∨ id ∈ ids → (marks.lookup id).isSome = true

theorem meets_cons (marks : List (String × Mark)) (id : String) (m : Mark) :
    Meets marks ((id, m) :: marks) [id] := by
  rintro other (before | here)
  · exact isSome_lookup_cons id m before
  · rw [List.mem_singleton.mp here, List.lookup_cons_self]
    rfl

/-- **Marks are never taken away.** -/
theorem Meets.step {before : List (String × Mark)} {ids : List String} {s s' : Search}
    (meets : Meets before s.marks ids) (next : Search.step g s = .ok s') :
    Meets before s'.marks ids := by
  intro id h
  have way := steps g s
  rw [next] at way
  cases way with
  | rest | pass | count => exact meets id h
  | leave | enter => exact isSome_lookup_cons _ _ (meets id h)

/-- **Visiting a node** leads to it and what it reads being done, or to a circle. -/
theorem visit_cases {id : String} (regular : Regular g ⟨[], marks⟩) (known : g.contains id = true) :
    (∃ marks', visit g marks id = .ok marks' ∧ Regular g ⟨[], marks'⟩ ∧ Meets marks marks' [id])
      ∨ ∃ ids, visit g marks id = .error ids ∧ g.IsCircle ids := by
  unfold visit
  split
  · next m met =>
    refine Or.inl ⟨marks, rfl, regular, ?_⟩
    rintro other (before | here)
    · exact before
    · rw [List.mem_singleton.mp here, met]
      rfl
  · next unmet =>
    have start : Regular g (push g ⟨[], marks⟩ id)
        ∧ Meets marks (push g ⟨[], marks⟩ id).marks [id] :=
      ⟨regular.push known unmet rfl trivial, meets_cons marks id .inProgress⟩
    have kept : ∀ {s s' : Search}, Regular g s ∧ Meets marks s.marks [id] →
        Search.step g s = .ok s' → Regular g s' ∧ Meets marks s'.marks [id] :=
      fun hs next => ⟨hs.1.step next, hs.2.step next⟩
    obtain ⟨marks', ran, regular', met⟩ | ⟨s, ids, hs, found, ran⟩ := run_cases kept start
    · exact Or.inl ⟨marks', ran, regular', met⟩
    · exact Or.inr ⟨ids, ran, hs.1.isCircle found⟩

/-- **Visiting many nodes** leads to them and what they read being done, or to a circle. -/
theorem foldlM_visit_cases {ids : List String} (regular : Regular g ⟨[], marks⟩)
    (known : ∀ id ∈ ids, g.contains id = true) :
    (∃ marks', ids.foldlM (visit g) marks = .ok marks' ∧ Regular g ⟨[], marks'⟩
        ∧ Meets marks marks' ids)
      ∨ ∃ circle, ids.foldlM (visit g) marks = .error circle ∧ g.IsCircle circle := by
  induction ids generalizing marks with
  | nil => exact Or.inl ⟨marks, rfl, regular, fun _ h => h.resolve_right nofun⟩
  | cons id ids ih =>
    rw [List.foldlM_cons]
    obtain ⟨next, visited, regular', met⟩ | ⟨circle, visited, isCircle⟩ :=
      visit_cases regular (known id List.mem_cons_self)
    · rw [visited]
      obtain ⟨marks', rest, regular'', met'⟩ | ⟨circle, rest, isCircle⟩ :=
        ih regular' fun other mem => known other (List.mem_cons_of_mem id mem)
      · refine Or.inl ⟨marks', rest, regular'', fun other h => met' other ?_⟩
        obtain before | here := h
        · exact Or.inl (met other (Or.inl before))
        · obtain rfl | later := List.mem_cons.mp here
          · exact Or.inl (met other (Or.inr List.mem_cons_self))
          · exact Or.inr later
      · exact Or.inr ⟨circle, rest, isCircle⟩
    · rw [visited]
      exact Or.inr ⟨circle, rfl, isCircle⟩

/-- **When nothing is on the stack, the marks rank the nodes** that were met. -/
theorem Regular.isRanking (regular : Regular g ⟨[], marks⟩)
    (met : ∀ id, g.contains id = true → (marks.lookup id).isSome = true) :
    g.IsRanking fun id => ((marks.lookup id).map Mark.rank).getD 0 := by
  have done : ∀ {id : String}, g.contains id = true →
      ∃ rank, marks.lookup id = some (.done rank) := fun {id} known => by
    obtain ⟨m, marked⟩ := Option.isSome_iff_exists.mp (met id known)
    cases m with
    | inProgress => cases regular.inProgress.mp marked
    | done rank => exact ⟨rank, marked⟩
  constructor
  · intro target source reads
    obtain ⟨rank, marked⟩ := done reads.target_known
    obtain none | none | ⟨lower, less, marked'⟩ := (regular.done marked).lower reads
    · cases none
    · cases none
    · simpa [marked, marked', Mark.rank] using less
  · intro id known
    obtain ⟨rank, marked⟩ := done known
    refine (regular.done marked).attained.imp (fun zero => ?_) ?_
    · simpa [marked, Mark.rank] using zero
    · rintro ⟨source, lower, reads, marked', above⟩
      exact ⟨source, reads, by simpa [marked, marked', Mark.rank] using above⟩

end Search

/-! ## Ranks and layouts -/

/-- **The search ranks the nodes or finds a circle.** -/
theorem ranks_cases (g : Graph) :
    (∃ rank : String → Nat, g.ranks = .ok (g.ids.map fun id => (id, rank id)) ∧ g.IsRanking rank)
      ∨ ∃ circle, g.ranks = .error circle ∧ g.IsCircle circle := by
  have known : ∀ id ∈ g.ids, g.contains id = true := fun _ => List.contains_iff_mem.mpr
  unfold ranks
  obtain ⟨marks, searched, regular, met⟩ | ⟨circle, searched, isCircle⟩ :=
    Search.foldlM_visit_cases (Search.Regular.empty g) known
  · rw [searched]
    refine Or.inl ⟨_, rfl, regular.isRanking fun id there => met id (Or.inr ?_)⟩
    exact List.contains_iff_mem.mp there
  · rw [searched]
    exact Or.inr ⟨circle, rfl, isCircle⟩

/-- **Numbers that rank the nodes are those that the search finds.** -/
theorem IsRanking.ranks_eq {rank : String → Nat} (ranking : g.IsRanking rank) :
    g.ranks = .ok (g.ids.map fun id => (id, rank id)) := by
  obtain ⟨rank', found, ranking'⟩ | ⟨circle, -, isCircle⟩ := g.ranks_cases
  · rw [found]
    refine congrArg Except.ok (List.map_congr_left fun id there => ?_)
    have known : g.contains id = true := List.contains_iff_mem.mpr there
    rw [ranking.eq_of_reads_iff ranking' Iff.rfl known known]
  · exact absurd isCircle.transGen ranking.not_transGen

/-- **A graph is laid out by the ranks of its nodes**, or a circle is reported. -/
theorem layout_cases (g : Graph) (config : LayoutConfig) :
    (∃ rank : String → Nat, g.IsRanking rank
        ∧ g.layout config = .ok (.ofRanks config (g.ids.map fun id => (id, rank id))))
      ∨ ∃ circle, g.IsCircle circle ∧ g.layout config = .error (.cycleDetected circle) := by
  unfold layout
  obtain ⟨rank, ranked, ranking⟩ | ⟨circle, found, isCircle⟩ := g.ranks_cases
  · rw [ranked]
    exact Or.inl ⟨rank, ranking, rfl⟩
  · rw [found]
    exact Or.inr ⟨circle, isCircle, rfl⟩

/-- **A graph can be laid out unless it has a circle.** The layout fails by reporting a circle
exactly if some node leads back to itself, and it fails in no other way: whatever it reports
is a circle of the graph. -/
theorem layout_fails_iff_circle (g : Graph) (config : LayoutConfig) :
    ((∃ circle, g.layout config = .error (.cycleDetected circle))
        ↔ ∃ id, Relation.TransGen g.Reads id id)
      ∧ ∀ e, g.layout config = .error e →
        ∃ circle, e = .cycleDetected circle ∧ g.IsCircle circle := by
  obtain ⟨rank, ranking, laid⟩ | ⟨circle, isCircle, found⟩ := g.layout_cases config
  · rw [laid]
    exact ⟨iff_of_false (fun ⟨_, failed⟩ => nomatch failed) ranking.not_transGen, nofun⟩
  · rw [found]
    refine ⟨iff_of_true ⟨circle, rfl⟩ isCircle.transGen, ?_⟩
    rintro e ⟨⟩
    exact ⟨circle, rfl, isCircle⟩

/-- A node that reads some others. -/
def Node.reading (id : String) (sources : List String) : Node where
  id := id
  nodeType := ""
  title := ""
  inputs := [⟨"in", "", sources.map fun source => ⟨source, "out"⟩⟩]
  outputs := []
  defaults := []

/-- Two nodes that read each other, behind one that only reads. -/
def entangled : Graph where
  nodes := [.reading "end" ["left"], .reading "left" ["right"], .reading "right" ["left", "lost"]]
  distinct := by decide

/-- The search begins at a node that is on no circle, and does not report it. -/
theorem layout_fails_iff_circle_of_entangled :
    entangled.layout {} = .error (.cycleDetected ["left", "right", "left"])
      ∧ (∃ id, Relation.TransGen entangled.Reads id id)
      ∧ entangled.IsCircle ["left", "right", "left"] := by
  have visited : Search.visit entangled [] "end" = .error ["left", "right", "left"] := by
    show Search.run entangled (Search.push entangled ⟨[], []⟩ "end") = _
    refine (Search.run_of_step rfl).trans ?_
    refine (Search.run_of_step rfl).trans ?_
    exact Search.run_of_circle rfl
  have ranked : entangled.ranks = .error ["left", "right", "left"] := by
    unfold ranks
    show Except.map _ (List.foldlM _ _ ("end" :: _)) = _
    rw [List.foldlM_cons, visited]
    rfl
  have laid : entangled.layout {} = .error (.cycleDetected ["left", "right", "left"]) := by
    unfold layout
    rw [ranked]
  obtain ⟨fails, only⟩ := layout_fails_iff_circle entangled {}
  obtain ⟨circle, same, isCircle⟩ := only _ laid
  obtain rfl := Error.cycleDetected.inj same
  exact ⟨laid, fails.mp ⟨_, laid⟩, isCircle⟩

end Graph

end AgentWorkflow
