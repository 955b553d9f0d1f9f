import AgentWorkflow.Proofs.Editing

/-!
# Instructions, and what they are answered

Adding a node takes a registry, and nothing says that it is always the same one: the
graph of one configuration may be edited under another. An *instruction* is an edit
with the registry it is carried out under (`Graph.Instruction`), and a run of
instructions may change the registry at every step.

Whoever edits a graph is told something in return, which an edit as such does not
say: the node that was added, what a removal broke, whether an edge is new, or why
nothing was done (`Graph.answer`). What is answered with an error has changed nothing
(`Graph.edit_of_refused`).
-/

namespace AgentWorkflow

namespace Graph

/-- What an edit that was made is answered. -/
inductive Answer where
  /-- The node that was added. -/
  | added (n : Node)
  /-- What the removal of a node broke. -/
  | severed (lost : List Error)
  /-- Whether an edge came or went. -/
  | changed (new : Bool)
  /-- Nothing more than that it was made. -/
  | made

/-- **What an edit is answered**, or why it is refused. -/
def answer (registry : Registry) (g : Graph) : Edit → Except Error Answer
  | .addNode id nodeType => (g.addNode registry id nodeType).map fun r => .added r.2
  | .removeNode id => (g.removeNode id).map fun r => .severed r.2
  | .connect e => (g.connect e).map fun r => .changed r.2
  | .disconnect e => .ok (.changed (g.disconnect e).2)
  | .setProperty id key value => (g.setProperty id key value).map fun _ => .made
  | .annotate id status output => (g.annotate id status output).map fun _ => .made
  | .resetStatuses => .ok .made
  | .applyLayout _ => .ok .made

/-- An edit that is carried out under a registry of its own. -/
structure Instruction where
  /-- The types that are known. -/
  registry : Registry
  /-- What is to be done. -/
  edit : Edit

/-- **Carries out an instruction.** -/
def carryOut (g : Graph) (i : Instruction) : Graph := g.edit i.registry i.edit

/-- **Carries out instructions**, one after the other. -/
def carryOutAll (g : Graph) (instructions : List Instruction) : Graph :=
  instructions.foldl carryOut g

variable {registry : Registry} {g : Graph}

/-! ## Adding and removing nodes -/

theorem edit_addNode_of_mem (registry : Registry) {id : String} (taken : id ∈ g.ids)
    (nodeType : String) : g.edit registry (.addNode id nodeType) = g := by
  have taken : g.contains id = true := List.contains_iff_mem.mpr taken
  dsimp only [edit, addNode]
  rw [dif_pos taken]
  rfl

/-- **A node of a known type is added** under an id that is new. -/
theorem edit_addNode_of_notMem (registry : Registry) {id : String} (new : id ∉ g.ids)
    (nodeType : String) :
    g.edit registry (.addNode id nodeType)
      = (registry.get? nodeType).elim g fun spec =>
        g.push (Node.ofSpec id (registry.graphName nodeType) spec) new := by
  have free : ¬g.contains id = true := fun there => new (List.contains_iff_mem.mp there)
  dsimp only [edit, addNode]
  rw [dif_neg free]
  cases registry.get? nodeType <;> rfl

/-- **A node that is there is removed.** -/
theorem edit_removeNode (registry : Registry) (g : Graph) (id : String) :
    g.edit registry (.removeNode id) = if g.contains id then g.without id else g := by
  dsimp only [edit, removeNode]
  split <;> rfl

/-! ## Refusals -/

theorem eq_error_of_map_eq_error {α β : Type} {f : α → β} {x : Except Error α} {e : Error}
    (h : x.map f = .error e) : x = .error e := by
  cases x with
  | error e' => exact congrArg Except.error (Except.error.inj h)
  | ok a => cases h

/-- **What is refused changes nothing.** -/
theorem edit_of_refused {change : Edit} {e : Error}
    (refused : g.answer registry change = .error e) : g.edit registry change = g := by
  cases change with
  | addNode id nodeType => rw [edit, eq_error_of_map_eq_error refused]; rfl
  | removeNode id => rw [edit, eq_error_of_map_eq_error refused]; rfl
  | connect edge => rw [edit, eq_error_of_map_eq_error refused]; rfl
  | setProperty id key value => rw [edit, eq_error_of_map_eq_error refused]; rfl
  | annotate id status output => rw [edit, eq_error_of_map_eq_error refused]; rfl
  | disconnect | resetStatuses | applyLayout => cases refused

/-- **Carrying out instructions keeps a graph sound**, under whatever registries. -/
theorem Sound.carryOutAll (sound : g.Sound) (instructions : List Instruction) :
    (g.carryOutAll instructions).Sound :=
  List.foldlRecOn instructions carryOut sound fun _ h i _ => h.edit i.registry i.edit

end Graph

end AgentWorkflow
