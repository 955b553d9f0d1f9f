import AgentWorkflow.Proofs.Removal

/-!
# Drawing and cutting one edge

An edge that is drawn shows in two places. It is the last of the sources that feed its target,
and it is one more in the list of all edges, which nobody stores. What happens to the first is
known (`Graph.wires_draw`, `Graph.wires_disconnect`), and decides what the graph is afterwards
(`Graph.eq_of_wires`): an edge that was there already changes nothing when it is drawn, one that
was not there changes nothing when it is cut, and what was drawn just now is taken back by cutting
it.

**The list of edges.** The place of an edge among them is found by going through nodes and slots
in order (`Graph.Place`). It is behind all edges that come up to the slot and in that slot, and
before those of the later slots and nodes. Of two slots of one name it is the first that counts,
and cutting goes to the same one. An edge that is drawn is put there (`Graph.Place.edges_draw`),
and an edge that is cut is missing from wherever it was (`Graph.edges_disconnect`).
-/

namespace AgentWorkflow

/-- Changing the first slot of a name changes the one that no other of that name precedes. -/
theorem InputSlot.updateFirst_append {name : String} {above below : List InputSlot}
    {slot : InputSlot} (first : ∀ s ∈ above, s.name ≠ name) (named : slot.name = name)
    (change : InputSlot → InputSlot) :
    updateFirst name change (above ++ slot :: below) = above ++ change slot :: below := by
  induction above with
  | nil => exact if_pos named
  | cons s above ih =>
    have rest := ih fun t ht => first t (List.mem_cons_of_mem s ht)
    rw [List.cons_append, updateFirst, if_neg (first s List.mem_cons_self), rest]
    rfl

namespace Graph

variable {g h : Graph} {e : Edge}

/-! ## Why an edge is refused -/

/-- **What an edge lacks** in a graph. -/
def Lacks (g : Graph) (e : Edge) : Obstacle → Prop
  | .sourceNode => ∀ n ∈ g.nodes, n.id ≠ e.sourceNode
  | .sourceOutput => ∃ n ∈ g.nodes, n.id = e.sourceNode ∧ ∀ s ∈ n.outputs, s.name ≠ e.sourceOutput
  | .targetNode => ∀ n ∈ g.nodes, n.id ≠ e.targetNode
  | .targetInput => ∃ n ∈ g.nodes, n.id = e.targetNode ∧ ∀ s ∈ n.inputs, s.name ≠ e.targetInput

instance (g : Graph) (e : Edge) : DecidablePred (g.Lacks e)
  | .sourceNode => inferInstanceAs (Decidable (∀ n ∈ g.nodes, n.id ≠ e.sourceNode))
  | .sourceOutput => inferInstanceAs
      (Decidable (∃ n ∈ g.nodes, n.id = e.sourceNode ∧ ∀ s ∈ n.outputs, s.name ≠ e.sourceOutput))
  | .targetNode => inferInstanceAs (Decidable (∀ n ∈ g.nodes, n.id ≠ e.targetNode))
  | .targetInput => inferInstanceAs
      (Decidable (∃ n ∈ g.nodes, n.id = e.targetNode ∧ ∀ s ∈ n.inputs, s.name ≠ e.targetInput))

theorem node?_eq_none_iff {id : String} : g.node? id = none ↔ ∀ n ∈ g.nodes, n.id ≠ id := by
  simp [node?]

/-- **An edge is refused for something that it lacks.** -/
theorem lacks_of_obstacle? {o : Obstacle} (missing : g.obstacle? e = some o) : g.Lacks e o := by
  unfold obstacle? wiresAt at missing
  cases source : g.node? e.sourceNode with
  | none =>
    obtain rfl : Obstacle.sourceNode = o := by simpa [source] using missing
    exact node?_eq_none_iff.mp source
  | some n =>
    obtain ⟨hn, named⟩ := node?_eq_some_iff.mp source
    cases output : n.hasOutput e.sourceOutput with
    | false =>
      obtain rfl : Obstacle.sourceOutput = o := by simpa [source, output] using missing
      exact ⟨n, hn, named, by simpa [Node.hasOutput] using output⟩
    | true =>
      cases target : g.node? e.targetNode with
      | none =>
        obtain rfl : Obstacle.targetNode = o := by simpa [source, output, target] using missing
        exact node?_eq_none_iff.mp target
      | some m =>
        obtain ⟨hm, named'⟩ := node?_eq_some_iff.mp target
        cases slot : m.input? e.targetInput with
        | none =>
          obtain rfl : Obstacle.targetInput = o := by
            simpa [source, output, target, slot] using missing
          exact ⟨m, hm, named', by simpa [Node.input?] using slot⟩
        | some s => simp [source, output, target, slot] at missing

/-- **An edge that lacks something** cannot be drawn. -/
theorem Lacks.not_drawable {o : Obstacle} (lacks : g.Lacks e o) : ¬g.Drawable e := by
  rintro ⟨⟨n, source, output⟩, m, target, slot⟩
  obtain ⟨hn, named⟩ := node?_eq_some_iff.mp source
  obtain ⟨hm, named'⟩ := node?_eq_some_iff.mp target
  cases o with
  | sourceNode => exact lacks n hn named
  | targetNode => exact lacks m hm named'
  | sourceOutput =>
    obtain ⟨n', hn', same, none⟩ := lacks
    obtain rfl : n' = n := Option.some.inj
      ((node?_eq_some_iff.mpr ⟨hn', same⟩).symm.trans source)
    obtain ⟨s, hs, here⟩ := List.any_eq_true.mp output
    exact none s hs (of_decide_eq_true here)
  | targetInput =>
    obtain ⟨m', hm', same, none⟩ := lacks
    obtain rfl : m' = m := Option.some.inj
      ((node?_eq_some_iff.mpr ⟨hm', same⟩).symm.trans target)
    obtain ⟨s, hs, here⟩ := List.find?_isSome.mp slot
    exact none s hs (of_decide_eq_true here)

/-- **An edge can be drawn if it lacks nothing.** -/
theorem not_drawable_iff_lacks : ¬g.Drawable e ↔ ∃ o, g.Lacks e o := by
  refine ⟨fun blocked => ?_, fun ⟨_, lacks⟩ => lacks.not_drawable⟩
  rw [drawable_iff_obstacle?_eq_none] at blocked
  obtain ⟨o, missing⟩ := Option.ne_none_iff_exists'.mp blocked
  exact ⟨o, lacks_of_obstacle? missing⟩

/-! ## What an edge does to the wires -/

theorem hasEdge_eq_contains (g : Graph) (e : Edge) :
    g.hasEdge e = (g.wires e.targetNode e.targetInput).contains e.source := by
  unfold hasEdge wires
  cases g.node? e.targetNode with
  | none => rfl
  | some n =>
    rw [Option.bind_some, Option.elim_some, Node.linksAt_eq_elim]
    cases n.input? e.targetInput <;> rfl

/-- **Cutting an edge** tells whether it was there. -/
theorem Tidy.disconnect_snd_iff (tidy : g.Tidy) : (g.disconnect e).2 = true ↔ e ∈ g.edges := by
  show g.hasEdge e = true ↔ _
  rw [hasEdge_eq_contains, List.contains_iff_mem, tidy.mem_edges_iff]

/-- Cutting an edge takes its source from what feeds its target. -/
theorem wires_disconnect (g : Graph) (e : Edge) (id name : String) :
    (g.disconnect e).1.wires id name
      = if e.leadsTo id name then (g.wires id name).filter (· != e.source)
        else g.wires id name := by
  show (g.updateTarget e fun s => s.unlink e.source).wires id name = _
  rw [wires_updateTarget (InputSlot.rewires_unlink e.source)]
  split
  · next here =>
    obtain ⟨rfl, rfl⟩ := of_decide_eq_true here
    unfold wires
    cases g.node? e.targetNode with
    | none => rfl
    | some n =>
      rw [Option.bind_some, Option.elim_some, Node.linksAt_eq_elim]
      cases n.input? e.targetInput <;> rfl
  · rfl

theorem unwired_disconnect (g : Graph) (e : Edge) : (g.disconnect e).1.unwired = g.unwired :=
  unwired_updateTarget (InputSlot.rewires_unlink e.source) g e

theorem filter_wires_of_notMem {links : List Connection} {c : Connection} (absent : c ∉ links) :
    links.filter (· != c) = links :=
  List.filter_eq_self.mpr fun _ mem => bne_iff_ne.mpr fun same => absent (same ▸ mem)

/-- **Drawing an edge that is there** changes nothing. -/
theorem Tidy.draw_of_mem (tidy : g.Tidy) (drawable : g.Drawable e) (there : e ∈ g.edges) :
    g.draw e = g := by
  refine eq_of_wires (tidy.draw e) tidy (g.unwired_draw e) fun id name => ?_
  rw [wires_draw drawable]
  split
  · next here =>
    obtain ⟨rfl, rfl⟩ := of_decide_eq_true here
    exact if_pos (List.contains_iff_mem.mpr (tidy.mem_edges_iff.mp there))
  · rfl

/-- **Cutting an edge that is not there** changes nothing. -/
theorem Sound.disconnect_of_notMem (sound : g.Sound) (absent : e ∉ g.edges) :
    (g.disconnect e).1 = g := by
  refine eq_of_wires (sound.disconnect e).tidy sound.tidy (g.unwired_disconnect e) fun id name => ?_
  rw [wires_disconnect]
  split
  · next here =>
    obtain ⟨rfl, rfl⟩ := of_decide_eq_true here
    exact filter_wires_of_notMem fun mem => absent (sound.tidy.mem_edges_iff.mpr mem)
  · rfl

/-- **Cutting takes back what was drawn.** -/
theorem Sound.disconnect_draw (sound : g.Sound) (drawable : g.Drawable e) (absent : e ∉ g.edges) :
    ((g.draw e).disconnect e).1 = g := by
  have same : ((g.draw e).disconnect e).1.unwired = g.unwired :=
    (unwired_disconnect _ e).trans (g.unwired_draw e)
  refine eq_of_wires ((sound.draw drawable).disconnect e).tidy sound.tidy same fun id name => ?_
  rw [wires_disconnect, wires_draw drawable]
  split
  · next here =>
    obtain ⟨rfl, rfl⟩ := of_decide_eq_true here
    have free : e.source ∉ g.wires e.targetNode e.targetInput := fun mem =>
      absent (sound.tidy.mem_edges_iff.mpr mem)
    have last : InputSlot.added (g.wires e.targetNode e.targetInput) e.source
        = g.wires e.targetNode e.targetInput ++ [e.source] :=
      if_neg fun known => free (List.contains_iff_mem.mp known)
    rw [last, List.filter_append, filter_wires_of_notMem free]
    simp
  · rfl

/-! ## What an edge does to the list of edges -/

/-- The edges into a slot of a node. -/
def Node.edgesInto (n : Node) (s : InputSlot) : List Edge :=
  s.links.map fun c => Edge.ofConnection c n.id s.name

/-- **The place where an edge leads**: the slot, and what comes before and behind it. -/
structure Place (g : Graph) (e : Edge) where
  /-- The nodes before the one that reads. -/
  earlier : List Node
  /-- The node that reads. -/
  node : Node
  /-- The nodes behind it. -/
  later : List Node
  /-- Its slots before the one that is fed. -/
  above : List InputSlot
  /-- The slot that is fed. -/
  slot : InputSlot
  /-- Its slots behind that one. -/
  below : List InputSlot
  /-- These are the nodes. -/
  nodes_eq : g.nodes = earlier ++ node :: later
  /-- These are the slots. -/
  inputs_eq : node.inputs = above ++ slot :: below
  /-- The node is the target of the edge. -/
  id_eq : node.id = e.targetNode
  /-- The slot is the input that the edge leads into. -/
  name_eq : slot.name = e.targetInput
  /-- It is the first one of its name. -/
  first : ∀ s ∈ above, s.name ≠ e.targetInput

namespace Place

variable (p : g.Place e)

/-- The edges up to the place, those into the slot included. -/
def upTo : List Edge :=
  p.earlier.flatMap Node.edges ++ p.above.flatMap p.node.edgesInto ++ p.node.edgesInto p.slot

/-- The edges behind the place. -/
def beyond : List Edge := p.below.flatMap p.node.edgesInto ++ p.later.flatMap Node.edges

/-- **The edges up to a place and those beyond it are all edges.** -/
theorem edges_eq : g.edges = p.upTo ++ p.beyond := by
  show g.nodes.flatMap Node.edges = _
  have node : p.node.edges = p.above.flatMap p.node.edgesInto
      ++ (p.node.edgesInto p.slot ++ p.below.flatMap p.node.edgesInto) := by
    show p.node.inputs.flatMap p.node.edgesInto = _
    rw [p.inputs_eq, List.flatMap_append, List.flatMap_cons]
  rw [p.nodes_eq, List.flatMap_append, List.flatMap_cons, node]
  simp only [upTo, beyond, List.append_assoc]

theorem id_ne {n : Node} (other : n ∈ p.earlier ∨ n ∈ p.later) : n.id ≠ e.targetNode := by
  have distinct := g.distinct
  rw [p.nodes_eq, List.map_append, List.map_cons, List.nodup_append, List.nodup_cons] at distinct
  obtain ⟨-, ⟨behind, -⟩, before⟩ := distinct
  rw [← p.id_eq]
  intro same
  rcases other with earlier | later
  · exact before n.id (List.mem_map_of_mem earlier) p.node.id List.mem_cons_self same
  · exact behind (List.mem_map.mpr ⟨n, later, same⟩)

/-- **Only the slot is changed** when the target of the edge is. -/
theorem nodes_updateTarget (change : InputSlot → InputSlot) :
    (g.updateTarget e change).nodes
      = p.earlier ++ { p.node with inputs := p.above ++ change p.slot :: p.below } :: p.later := by
  have others (ns : List Node) (apart : ∀ n ∈ ns, n.id ≠ e.targetNode) :
      ns.map (fun n => { (if n.id = e.targetNode then n.updateInput e.targetInput change else n)
        with id := n.id }) = ns := by
    refine (List.map_congr_left fun n hn => ?_).trans (List.map_id ns)
    dsimp only
    rw [if_neg (apart n hn)]
    rfl
  have target : ({ (if p.node.id = e.targetNode then p.node.updateInput e.targetInput change
        else p.node) with id := p.node.id } : Node)
      = { p.node with inputs := p.above ++ change p.slot :: p.below } := by
    rw [if_pos p.id_eq, Node.updateInput, p.inputs_eq,
      InputSlot.updateFirst_append p.first p.name_eq]
  show g.nodes.map _ = _
  rw [p.nodes_eq, List.map_append, List.map_cons, others _ fun n hn => p.id_ne (.inl hn),
    others _ fun n hn => p.id_ne (.inr hn)]
  exact congrArg (p.earlier ++ · :: p.later) target

/-- **An edge that is drawn comes last in its slot**, and no other edge moves. -/
theorem edges_draw (absent : e ∉ g.edges) : (g.draw e).edges = p.upTo ++ e :: p.beyond := by
  have fresh : e.source ∉ p.slot.links := fun fed => absent <| by
    rw [p.edges_eq]
    refine List.mem_append_left _ (List.mem_append_right _ (List.mem_map.mpr ⟨e.source, fed, ?_⟩))
    rw [p.id_eq, p.name_eq]
    rfl
  have link : p.slot.link e.source = { p.slot with links := p.slot.links ++ [e.source] } :=
    if_neg fun known => fresh (List.contains_iff_mem.mp known)
  have slot : p.node.edgesInto (p.slot.link e.source) = p.node.edgesInto p.slot ++ [e] := by
    rw [link]
    show (p.slot.links ++ [e.source]).map _
      = (p.slot.links.map fun c => Edge.ofConnection c p.node.id p.slot.name) ++ [e]
    rw [List.map_append, List.map_singleton, p.id_eq, p.name_eq]
    rfl
  have node : Node.edges
        { p.node with inputs := p.above ++ p.slot.link e.source :: p.below }
      = p.above.flatMap p.node.edgesInto
        ++ (p.node.edgesInto (p.slot.link e.source) ++ p.below.flatMap p.node.edgesInto) := by
    show (p.above ++ p.slot.link e.source :: p.below).flatMap p.node.edgesInto = _
    rw [List.flatMap_append, List.flatMap_cons]
  show (g.updateTarget e fun s => s.link e.source).nodes.flatMap Node.edges = _
  rw [p.nodes_updateTarget, List.flatMap_append, List.flatMap_cons, node, slot]
  simp only [upTo, beyond, List.append_assoc, List.cons_append, List.nil_append]

end Place

/-- **An edge that can be drawn has a place.** -/
theorem Drawable.exists_place (drawable : g.Drawable e) : Nonempty (g.Place e) := by
  obtain ⟨n, found, slot⟩ := drawable.received
  obtain ⟨hn, named⟩ := node?_eq_some_iff.mp found
  obtain ⟨s, found'⟩ := Option.isSome_iff_exists.mp slot
  obtain ⟨earlier, later, nodes⟩ := List.append_of_mem hn
  obtain ⟨here, above, below, inputs, first⟩ := List.find?_eq_some_iff_append.mp found'
  exact ⟨{
    earlier, later, above, below
    node := n
    slot := s
    nodes_eq := nodes
    inputs_eq := inputs
    id_eq := named
    name_eq := of_decide_eq_true here
    first := fun t ht same => by simpa [same] using first t ht }⟩

/-- **Cutting an edge at its slot** removes it from the edges into the node, wherever it is. -/
theorem Node.flatMap_edgesInto_unlink (n : Node) (here : n.id = e.targetNode)
    {slots : List InputSlot} (tidy : InputSlot.Tidy slots) :
    (InputSlot.updateFirst e.targetInput (fun s => s.unlink e.source) slots).flatMap n.edgesInto
      = (slots.flatMap n.edgesInto).filter (· ≠ e) := by
  induction slots with
  | nil => rfl
  | cons s slots ih =>
    unfold InputSlot.updateFirst
    rw [List.flatMap_cons, List.filter_append]
    by_cases named : s.name = e.targetInput
    · have head : n.edgesInto (s.unlink e.source) = (n.edgesInto s).filter (· ≠ e) := by
        show (s.links.filter (· != e.source)).map _ = (s.links.map _).filter _
        rw [List.filter_map]
        refine congrArg (List.map _) (List.filter_congr fun c _ => ?_)
        rw [here, named]
        have same : Edge.ofConnection c e.targetNode e.targetInput = e ↔ c = e.source :=
          ⟨congrArg Edge.source, fun same => same ▸ rfl⟩
        simp [bne, same, beq_eq_decide]
      have tail : (slots.flatMap n.edgesInto).filter (· ≠ e) = slots.flatMap n.edgesInto := by
        refine List.filter_eq_self.mpr fun e' mem => decide_eq_true ?_
        rintro rfl
        obtain ⟨t, ht, mem⟩ := List.mem_flatMap.mp mem
        obtain ⟨c, hc, rfl⟩ := List.mem_map.mp mem
        rw [tidy.links_eq_nil ht named] at hc
        cases hc
      rw [if_pos named, List.flatMap_cons, head, tail]
    · have head : (n.edgesInto s).filter (· ≠ e) = n.edgesInto s := by
        refine List.filter_eq_self.mpr fun e' mem => decide_eq_true ?_
        rintro rfl
        obtain ⟨c, -, rfl⟩ := List.mem_map.mp mem
        exact named rfl
      rw [if_neg named, List.flatMap_cons, head, ih tidy.tail]

/-- **An edge that is cut is gone**, and no other one is. -/
theorem edges_disconnect (tidy : g.Tidy) (e : Edge) :
    (g.disconnect e).1.edges = g.edges.filter (· ≠ e) := by
  show (g.nodes.map _).flatMap Node.edges = (g.nodes.flatMap Node.edges).filter _
  rw [List.flatMap_map, List.filter_flatMap]
  refine List.flatMap_congr fun n hn => ?_
  dsimp only
  split
  · next here => exact n.flatMap_edgesInto_unlink here (tidy n hn)
  · next other =>
    refine (List.filter_eq_self.mpr fun e' mem => decide_eq_true ?_).symm
    rintro rfl
    exact other (Node.targetNode_of_mem_edges mem).symm

/-! ## Both together -/

/-- **What drawing an edge is answered**, if it can be drawn. -/
theorem Tidy.connect_of_drawable (tidy : g.Tidy) (drawable : g.Drawable e) :
    g.connect e = .ok (g.draw e, decide (e ∉ g.edges)) := by
  obtain ⟨-, fed⟩ | ⟨blocked, -⟩ := g.wiresAt_cases e
  · have new : (!(g.wires e.targetNode e.targetInput).contains e.source)
        = decide (e ∉ g.edges) := by
      simp [tidy.mem_edges_iff]
    unfold connect wire
    rw [fed, ← new]
    rfl
  · exact absurd drawable blocked

/-- **An edge that cannot be drawn** is refused for something that it lacks. -/
theorem connect_of_not_drawable (blocked : ¬g.Drawable e) :
    ∃ o, g.Lacks e o ∧ g.connect e = .error (o.toError e) := by
  obtain ⟨drawable, -⟩ | ⟨-, o, refused⟩ := g.wire_cases e
  · exact absurd drawable blocked
  · refine ⟨o, lacks_of_obstacle? (obstacle?_of_wire_eq_error refused), ?_⟩
    unfold connect
    rw [refused]
    rfl

/-- **Drawing an edge that can be drawn** is answered by whether it is new. -/
theorem Tidy.connect_eq_ok_iff (tidy : g.Tidy) {new : Bool} :
    g.connect e = .ok (h, new) ↔ g.Drawable e ∧ h = g.draw e ∧ new = decide (e ∉ g.edges) := by
  by_cases drawable : g.Drawable e
  · rw [tidy.connect_of_drawable drawable, Except.ok.injEq, Prod.mk.injEq, eq_comm (a := h),
      eq_comm (a := new)]
    exact (and_iff_right drawable).symm
  · obtain ⟨o, -, refused⟩ := connect_of_not_drawable drawable
    rw [refused]
    exact iff_of_false nofun fun drawn => drawable drawn.1

/-- **Drawing an edge changes the graph** unless it is there or cannot be drawn. -/
theorem Sound.edit_connect_eq_self_iff (sound : g.Sound) (registry : Registry) :
    g.edit registry (.connect e) = g ↔ e ∈ g.edges ∨ ¬g.Drawable e := by
  show ((g.connect e).toOption.map Prod.fst).getD g = g ↔ _
  by_cases drawable : g.Drawable e
  · rw [sound.tidy.connect_of_drawable drawable]
    show g.draw e = g ↔ _
    refine ⟨fun same => Or.inl ?_, fun unchanged => ?_⟩
    · exact same ▸ (mem_edges_draw sound.tidy drawable).mpr (Or.inr rfl)
    · have there := unchanged.resolve_right fun blocked => blocked drawable
      exact sound.tidy.draw_of_mem drawable there
  · obtain ⟨o, -, refused⟩ := connect_of_not_drawable drawable
    rw [refused]
    exact iff_of_true rfl (Or.inr drawable)

/-- **Drawing an edge and cutting it are inverse to each other.** Take a graph that was begun with
nothing in it or built from any definition, and edited under whatever registries, and any edge.
Drawing the edge is refused exactly if it lacks its source, its target or a slot of theirs, and the
refusal names one of these. It is answered that the edge is not new exactly if it is there; then,
as when it is refused, nothing has changed. In all other cases the edge is new and comes last in
its slot, among the edges there were, and cutting it gives the graph back. Cutting an edge tells
whether it was there, and changes nothing if it was not. It removes this edge from the list of
all edges and leaves the others and the bare nodes alone. -/
theorem drawing_is_undone_by_cutting (origin : Origin) (instructions : List Instruction)
    (e : Edge) :
    let g := origin.graph.carryOutAll instructions
    ((∃ err, g.connect e = .error err) ↔ ∃ o, g.Lacks e o)
      ∧ (∀ err, g.connect e = .error err → ∃ o, g.Lacks e o ∧ err = o.toError e)
      ∧ (∀ h, g.connect e = .ok (h, false) ↔ e ∈ g.edges ∧ h = g)
      ∧ ((∃ h, g.connect e = .ok (h, true)) ↔ e ∉ g.edges ∧ ¬∃ o, g.Lacks e o)
      ∧ (∀ h, g.connect e = .ok (h, true) →
          (∃ p : g.Place e, g.edges = p.upTo ++ p.beyond ∧ h.edges = p.upTo ++ e :: p.beyond)
            ∧ h.disconnect e = (g, true))
      ∧ (∀ registry, g.edit registry (.connect e) = g ↔ e ∈ g.edges ∨ ∃ o, g.Lacks e o)
      ∧ ((g.disconnect e).2 = true ↔ e ∈ g.edges)
      ∧ (g.disconnect e = (g, false) ↔ e ∉ g.edges)
      ∧ (g.disconnect e).1.edges = g.edges.filter (· ≠ e)
      ∧ (g.disconnect e).1.unwired = g.unwired := by
  intro g
  have sound : g.Sound := (Sound.origin origin).carryOutAll instructions
  have tidy := sound.tidy
  refine ⟨?_, fun err refused => ?_, fun h => ?_, ?_, fun h drawn => ?_, fun registry => ?_,
    tidy.disconnect_snd_iff, ⟨fun cut there => ?_, fun absent => ?_⟩, edges_disconnect tidy e,
    unwired_disconnect g e⟩
  · rw [← not_drawable_iff_lacks]
    refine ⟨fun ⟨err, refused⟩ drawable => ?_, fun blocked => ?_⟩
    · cases refused.symm.trans (tidy.connect_of_drawable drawable)
    · obtain ⟨o, -, refused⟩ := connect_of_not_drawable blocked
      exact ⟨_, refused⟩
  · have blocked : ¬g.Drawable e := fun drawable => by
      cases refused.symm.trans (tidy.connect_of_drawable drawable)
    obtain ⟨o, lacks, refused'⟩ := connect_of_not_drawable blocked
    exact ⟨o, lacks, Except.error.inj (refused.symm.trans refused')⟩
  · rw [tidy.connect_eq_ok_iff]
    constructor
    · rintro ⟨drawable, rfl, old⟩
      have there : e ∈ g.edges := by simpa using old
      exact ⟨there, tidy.draw_of_mem drawable there⟩
    · rintro ⟨there, rfl⟩
      have drawable := sound.drawable there
      exact ⟨drawable, (tidy.draw_of_mem drawable there).symm, by simpa using there⟩
  · rw [← not_drawable_iff_lacks, not_not]
    constructor
    · rintro ⟨h, drawn⟩
      obtain ⟨drawable, -, new⟩ := tidy.connect_eq_ok_iff.mp drawn
      exact ⟨by simpa using new, drawable⟩
    · rintro ⟨absent, drawable⟩
      exact ⟨_, tidy.connect_eq_ok_iff.mpr ⟨drawable, rfl, by simpa using absent⟩⟩
  · obtain ⟨drawable, rfl, new⟩ := tidy.connect_eq_ok_iff.mp drawn
    have absent : e ∉ g.edges := by simpa using new
    obtain ⟨p⟩ := drawable.exists_place
    have there : e ∈ (g.draw e).edges := (mem_edges_draw tidy drawable).mpr (Or.inr rfl)
    exact ⟨⟨p, p.edges_eq, p.edges_draw absent⟩,
      Prod.ext (sound.disconnect_draw drawable absent)
        ((tidy.draw e).disconnect_snd_iff.mpr there)⟩
  · rw [← not_drawable_iff_lacks]
    exact sound.edit_connect_eq_self_iff registry
  · have found := tidy.disconnect_snd_iff.mpr there
    rw [cut] at found
    cases found
  · have missed : (g.disconnect e).2 = false :=
      Bool.eq_false_iff.mpr fun found => absent (tidy.disconnect_snd_iff.mp found)
    exact Prod.ext (sound.disconnect_of_notMem absent) missed

/-- A type with two slots of one name. -/
def twin : NodeTypeSpec :=
  { name := "Twin", title := "Twin", inputs := [⟨"in", ""⟩, ⟨"in", ""⟩], outputs := [⟨"out", ""⟩] }

/-- A node that reads itself through the first of two slots of one name: the edge is the last one
of the graph, and is taken back. -/
theorem drawing_is_undone_by_cutting_at_loop :
    let registry : Registry := { types := [twin] }
    let g := Origin.nothing.graph.carryOutAll
      [⟨registry, .addNode "a" "Twin"⟩, ⟨registry, .addNode "b" "Twin"⟩,
        ⟨registry, .connect ⟨"a", "out", "b", "in"⟩⟩]
    let loop : Edge := ⟨"b", "out", "b", "in"⟩
    ∃ h, g.connect loop = .ok (h, true)
      ∧ h.edges = [⟨"a", "out", "b", "in"⟩, loop]
      ∧ h.disconnect loop = (g, true) := by
  intro registry g loop
  have absent : loop ∉ g.edges := by decide +kernel
  have complete : ¬∃ o, g.Lacks loop o := by
    rintro ⟨o, lacks⟩
    revert lacks
    cases o <;> decide +kernel
  obtain ⟨-, -, -, new, drawn, -⟩ := drawing_is_undone_by_cutting .nothing
    [⟨registry, .addNode "a" "Twin"⟩, ⟨registry, .addNode "b" "Twin"⟩,
      ⟨registry, .connect ⟨"a", "out", "b", "in"⟩⟩] loop
  obtain ⟨h, answered⟩ := new.mpr ⟨absent, complete⟩
  have sound : g.Sound := (Sound.origin .nothing).carryOutAll _
  obtain ⟨-, rfl, -⟩ := sound.tidy.connect_eq_ok_iff.mp answered
  exact ⟨g.draw loop, answered, by decide +kernel, (drawn _ answered).2⟩

end Graph

end AgentWorkflow
