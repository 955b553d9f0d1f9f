import AgentWorkflow.Graph.Basic

/-!
# Ranks

The rank of a node is the length of the longest chain of nodes that leads to
it: zero if it reads no node of the graph, otherwise one more than the highest
rank it reads. A graph with a circle has no ranks, and then the circle is what
there is to report.

Ranks are found by a depth-first search against the edges. The search keeps
its own stack, so that a long chain costs memory and nothing else, and it
*marks* nodes: in progress from the moment they are put on the stack, done,
with their rank, once they leave it. Meeting a node in progress closes a
circle, which is the part of the stack above that node.

**Why it ends.** Each step either marks a node of the graph that was unmarked,
or leaves fewer unread predecessors and frames on the stack. `Search.weight`
puts the two counts in that order.
-/

namespace AgentWorkflow.Graph

/-- How far the search has come with a node. -/
inductive Mark where
  /-- It is on the stack. -/
  | inProgress
  /-- Its rank is known. -/
  | done (rank : Nat)
  deriving DecidableEq

/-- A node on the stack of the search. -/
structure Frame where
  /-- The node. -/
  id : String
  /-- The nodes it reads that have not been looked at. -/
  pending : List String
  /-- The rank it has because of those that have. -/
  rank : Nat := 0

/-- The search for ranks, on its way. -/
structure Search where
  /-- The nodes in progress, the one met last in front. -/
  stack : List Frame := []
  /-- The marks given so far, the latest in front. -/
  marks : List (String × Mark) := []

/-- A node as it is put on the stack. -/
def Frame.enter (g : Graph) (id : String) : Frame :=
  { id, pending := (g.node? id).elim [] Node.predecessors }

namespace Search

/-- The search with one more node in progress. -/
def push (g : Graph) (s : Search) (id : String) : Search :=
  ⟨Frame.enter g id :: s.stack, (id, .inProgress) :: s.marks⟩

/-- The circle that closes when the topmost node reads one in progress: the
nodes from that one up, and that one again. -/
def circle (stack : List Frame) (id : String) : List String :=
  (stack.reverse.map Frame.id).dropWhile (· ≠ id) ++ [id]

/-- The stack after its topmost node was found to have at least a rank. -/
def raise (rank : Nat) : List Frame → List Frame
  | [] => []
  | top :: below => { top with rank := max top.rank rank } :: below

/-- **One step of the search**, or the circle it has found. The topmost node
looks at one of its predecessors, or leaves the stack if none is left. -/
def step (g : Graph) (s : Search) : Except (List String) Search :=
  match s.stack with
  | [] => .ok s
  | top :: below =>
    match top.pending with
    | [] =>
      .ok ⟨raise (top.rank + 1) below, (top.id, .done top.rank) :: s.marks⟩
    | id :: pending =>
      let top := { top with pending }
      if g.contains id then
        match s.marks.lookup id with
        | some (.done rank) =>
          .ok { s with stack := raise (rank + 1) (top :: below) }
        | some .inProgress => .error (circle s.stack id)
        | none => .ok (push g { s with stack := top :: below } id)
      else .ok { s with stack := top :: below }

/-- How many nodes of the graph have no mark. -/
def unmarked (g : Graph) (marks : List (String × Mark)) : Nat :=
  g.ids.countP fun id => (marks.lookup id).isNone

/-- The predecessors that have not been looked at, and the frames. -/
def remaining : List Frame → Nat
  | [] => 0
  | top :: below => top.pending.length + 1 + remaining below

@[simp] theorem remaining_cons (top : Frame) (below : List Frame) :
    remaining (top :: below) = top.pending.length + 1 + remaining below := rfl

@[simp] theorem remaining_raise (rank : Nat) (stack : List Frame) :
    remaining (raise rank stack) = remaining stack := by
  cases stack <;> simp [raise]

/-- What decreases with every step: unmarked nodes first, then the work left on
the stack. -/
def weight (g : Graph) (s : Search) : Nat × Nat := (unmarked g s.marks, remaining s.stack)

theorem unmarked_cons_le (g : Graph) (marks : List (String × Mark)) (id : String) (m : Mark) :
    unmarked g ((id, m) :: marks) ≤ unmarked g marks := by
  apply List.countP_mono_left
  intro a _
  simp only [List.lookup_cons]
  split <;> simp

theorem countP_lt_countP {α : Type} {p q : α → Bool} {l : List α} (h : ∀ a ∈ l, p a → q a)
    {x : α} (hx : x ∈ l) (hq : q x = true) (hp : p x = false) : l.countP p < l.countP q := by
  induction l with
  | nil => simp at hx
  | cons a rest ih =>
    have hrest : rest.countP p ≤ rest.countP q :=
      List.countP_mono_left fun b hb => h b (List.mem_cons_of_mem _ hb)
    rcases List.mem_cons.1 hx with rfl | hmem
    · rw [List.countP_cons, List.countP_cons, if_neg (by simp [hp]), if_pos hq]
      omega
    · have hlt := ih (fun b hb => h b (List.mem_cons_of_mem _ hb)) hmem
      rw [List.countP_cons, List.countP_cons]
      have hhead := h a List.mem_cons_self
      by_cases ha : p a = true
      · rw [if_pos ha, if_pos (hhead ha)]
        omega
      · rw [if_neg ha]
        omega

/-- Marking an unmarked node of the graph leaves fewer of them. -/
theorem unmarked_cons_lt {g : Graph} {marks : List (String × Mark)} {id : String} (m : Mark)
    (hg : g.contains id = true) (hm : marks.lookup id = none) :
    unmarked g ((id, m) :: marks) < unmarked g marks := by
  apply countP_lt_countP (x := id)
  · intro a _
    simp only [List.lookup_cons]
    split <;> simp
  · simpa [contains] using hg
  · simp [hm]
  · simp

/-- **Every step that does not find a circle makes the search lighter.** -/
theorem weight_step_lt {g : Graph} {s s' : Search} (hs : s.stack ≠ [])
    (h : step g s = .ok s') : Prod.Lex (· < ·) (· < ·) (weight g s') (weight g s) := by
  obtain ⟨stack, marks⟩ := s
  rw [Prod.lex_def]
  match stack, hs with
  | ⟨topId, pending, rank⟩ :: below, _ =>
    unfold step at h
    cases pending with
    | nil =>
      simp only [Except.ok.injEq] at h
      subst h
      have hle := unmarked_cons_le g marks topId (.done rank)
      simp only [weight, remaining_raise, remaining_cons]
      omega
    | cons id pending =>
      simp only at h
      split at h
      · rename_i hg
        split at h
        · simp only [Except.ok.injEq] at h
          subst h
          simp [weight]
        · cases h
        · rename_i hm
          simp only [Except.ok.injEq] at h
          subst h
          exact .inl (unmarked_cons_lt .inProgress hg hm)
      · simp only [Except.ok.injEq] at h
        subst h
        simp [weight]

/-- The marks once the stack is empty, or the circle that was met on the
way. -/
def run (g : Graph) (s : Search) : Except (List String) (List (String × Mark)) :=
  if hs : s.stack = [] then .ok s.marks
  else
    match h : step g s with
    | .error ids => .error ids
    | .ok s' =>
      have := weight_step_lt hs h
      run g s'
termination_by weight g s
decreasing_by exact this

/-- The marks after one more node, with all that leads to it, was ranked. -/
def visit (g : Graph) (marks : List (String × Mark)) (id : String) :
    Except (List String) (List (String × Mark)) :=
  match marks.lookup id with
  | some _ => .ok marks
  | none => run g (push g ⟨[], marks⟩ id)

end Search

/-- The rank a mark tells. -/
def Mark.rank : Mark → Nat
  | inProgress => 0
  | done rank => rank

/-- **The ranks of all nodes**, in graph order, or a circle. -/
def ranks (g : Graph) : Except (List String) (List (String × Nat)) :=
  (g.ids.foldlM (Search.visit g) []).map fun marks =>
    g.ids.map fun id => (id, ((marks.lookup id).map Mark.rank).getD 0)

end AgentWorkflow.Graph
