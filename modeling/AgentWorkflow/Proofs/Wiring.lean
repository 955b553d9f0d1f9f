import AgentWorkflow.Graph.Build
import AgentWorkflow.Proofs.Slots

/-!
# Graphs by their wires

A graph keeps every wire at the slot it leads into. Seen from outside, a graph
is two things: its nodes with nothing wired to them (`Graph.unwired`), and for
each input the sources that feed it, in order (`Graph.wires`). Drawing and
cutting edges change the second and leave the first alone. Whatever depends on
bare nodes only, such as whether an edge can be drawn at all, is therefore the
same before and after, and what an edge does to a graph is what it does to the
one input it leads into (`Graph.wires_draw`).

The view is faithful for graphs whose slots are tidy. Two of them with the same
bare nodes and the same wires are equal (`Graph.eq_of_wires`), and the edges
into an input are its wires (`Graph.map_source_filter_edges`).
-/

namespace AgentWorkflow

namespace Graph

/-! ## Nodes -/

namespace Node

/-- The node with nothing wired to it. -/
def unwired (n : Node) : Node := { n with inputs := n.inputs.map InputSlot.unwired }

/-- The sources that feed an input of the node. -/
def linksAt (n : Node) (name : String) : List Connection := InputSlot.linksAt n.inputs name

variable {n m : Node}

/-- What an input is fed is what its slot holds. -/
theorem linksAt_eq_elim (n : Node) (name : String) :
    n.linksAt name = (n.input? name).elim [] InputSlot.links := rfl

/-- **Tidy nodes are equal** if they are so without their wires and feed the same
inputs. -/
theorem eq_of_linksAt (tidy : InputSlot.Tidy n.inputs) (tidy' : InputSlot.Tidy m.inputs)
    (same : n.unwired = m.unwired) (links : ∀ name, n.linksAt name = m.linksAt name) : n = m := by
  have inputs : n.inputs = m.inputs :=
    tidy.eq_of_linksAt tidy' (congrArg Node.inputs same) links
  cases n
  cases m
  cases inputs
  simpa [unwired] using same

theorem unwired_map_inputs {change : InputSlot → InputSlot} (rewires : InputSlot.Rewires change)
    (n : Node) : Node.unwired { n with inputs := n.inputs.map change } = n.unwired := by
  show ({ n with inputs := (n.inputs.map change).map InputSlot.unwired } : Node) = n.unwired
  rw [List.map_map, (funext rewires : InputSlot.unwired ∘ change = InputSlot.unwired)]
  rfl

theorem unwired_unwired (n : Node) : n.unwired.unwired = n.unwired := by
  have rewires : InputSlot.Rewires InputSlot.unwired := fun _ => rfl
  exact unwired_map_inputs rewires n

theorem unwired_ofSpec (id nodeType : String) (spec : NodeTypeSpec) :
    (Node.ofSpec id nodeType spec).unwired = Node.ofSpec id nodeType spec := by
  unfold unwired Node.ofSpec
  dsimp only
  rw [List.map_map]
  rfl

theorem unwired_updateInput {change : InputSlot → InputSlot} (rewires : InputSlot.Rewires change)
    (n : Node) (name : String) : (n.updateInput name change).unwired = n.unwired := by
  unfold unwired updateInput
  rw [InputSlot.map_unwired_updateFirst rewires]

end Node

namespace Edge

/-- Whether the edge leads into an input. -/
def leadsTo (e : Edge) (id name : String) : Bool := e.targetNode = id ∧ e.targetInput = name

end Edge

theorem Node.map_source_filter_edges {n : Node} (tidy : InputSlot.Tidy n.inputs)
    (id name : String) :
    (n.edges.filter fun e => e.leadsTo id name).map Edge.source
      = if n.id = id then n.linksAt name else [] := by
  unfold edges
  rw [List.filter_flatMap, List.map_flatMap]
  by_cases here : n.id = id
  · rw [if_pos here]
    refine Eq.trans (congrArg (fun f => n.inputs.flatMap f) (funext fun s => ?_))
      (tidy.flatMap_links name)
    rw [List.filter_map, List.map_map]
    by_cases named : s.name = name
    · have all : s.links.filter ((fun e => Edge.leadsTo e id name)
          ∘ fun c => Edge.ofConnection c n.id s.name) = s.links :=
        List.filter_eq_self.mpr fun c _ => decide_eq_true ⟨here, named⟩
      rw [if_pos named, all]
      exact List.map_id s.links
    · have none : s.links.filter ((fun e => Edge.leadsTo e id name)
          ∘ fun c => Edge.ofConnection c n.id s.name) = [] :=
        List.filter_eq_nil_iff.mpr fun c _ h => named (of_decide_eq_true h).2
      rw [if_neg named, none]
      rfl
  · rw [if_neg here, List.flatMap_eq_nil_iff]
    intro s _
    have none : s.links.filter ((fun e => Edge.leadsTo e id name)
        ∘ fun c => Edge.ofConnection c n.id s.name) = [] :=
      List.filter_eq_nil_iff.mpr fun c _ h => here (of_decide_eq_true h).1
    rw [List.filter_map, none]
    rfl

/-! ## Graphs -/

theorem eq_of_nodes {g h : Graph} (nodes : g.nodes = h.nodes) : g = h := by
  cases g
  cases h
  cases nodes
  rfl

theorem node?_eq_some_iff {g : Graph} {id : String} {n : Node} :
    g.node? id = some n ↔ n ∈ g.nodes ∧ n.id = id := by
  obtain ⟨nodes, distinct⟩ := g
  show (nodes.find? fun n => n.id = id) = some n ↔ n ∈ nodes ∧ n.id = id
  induction nodes with
  | nil => simp
  | cons m nodes ih =>
    rw [List.map_cons, List.nodup_cons] at distinct
    rw [List.find?_cons, List.mem_cons]
    by_cases here : m.id = id
    · rw [decide_eq_true here]
      constructor
      · rintro ⟨⟩
        exact ⟨Or.inl rfl, here⟩
      · rintro ⟨rfl | behind, same⟩
        · rfl
        · exact absurd (List.mem_map.mpr ⟨n, behind, same.trans here.symm⟩) distinct.1
    · rw [decide_eq_false here]
      refine (ih distinct.2).trans ⟨fun ⟨h, same⟩ => ⟨Or.inr h, same⟩, ?_⟩
      rintro ⟨rfl | behind, same⟩
      · exact absurd same here
      · exact ⟨behind, same⟩

theorem contains_iff {g : Graph} {id : String} :
    g.contains id = true ↔ ∃ n ∈ g.nodes, n.id = id := by
  unfold contains ids
  rw [List.contains_iff_mem, List.mem_map]

/-- The graph with nothing wired. -/
def unwired (g : Graph) : Graph := g.mapNodes Node.unwired

/-- **The sources that feed an input**, in order. -/
def wires (g : Graph) (id name : String) : List Connection :=
  (g.node? id).elim [] fun n => n.linksAt name

/-- All slots of all nodes are tidy. -/
def Tidy (g : Graph) : Prop := ∀ n ∈ g.nodes, InputSlot.Tidy n.inputs

/-- Some node offers the output that a source names. -/
def Offers (g : Graph) (c : Connection) : Prop :=
  ∃ n, g.node? c.fromNode = some n ∧ n.hasOutput c.fromOutput = true

/-- **The edge can be drawn**: its source is offered, and its target is there. -/
structure Drawable (g : Graph) (e : Edge) : Prop where
  /-- A node offers its source. -/
  offered : g.Offers e.source
  /-- A node has the input it leads into. -/
  received : ∃ n, g.node? e.targetNode = some n ∧ (n.input? e.targetInput).isSome = true

variable {g h : Graph} {e : Edge} {es : List Edge}

/-! ## What wires have no part in -/

theorem nodes_unwired (g : Graph) : g.unwired.nodes = g.nodes.map Node.unwired := rfl

theorem node?_unwired (g : Graph) (id : String) :
    g.unwired.node? id = (g.node? id).map Node.unwired := by
  unfold unwired
  rw [node?_mapNodes]
  rfl

theorem unwired_unwired (g : Graph) : g.unwired.unwired = g.unwired := by
  refine eq_of_nodes ?_
  rw [nodes_unwired, nodes_unwired, List.map_map]
  exact List.map_congr_left fun n _ => n.unwired_unwired

/-- Whether a source is offered is a matter of the bare nodes. -/
theorem offers_unwired {c : Connection} : g.unwired.Offers c ↔ g.Offers c := by
  unfold Offers
  rw [node?_unwired]
  simp only [Option.map_eq_some_iff]
  constructor
  · rintro ⟨_, ⟨n, found, rfl⟩, output⟩
    exact ⟨n, found, output⟩
  · rintro ⟨n, found, output⟩
    exact ⟨n.unwired, ⟨n, found, rfl⟩, output⟩

theorem Node.input?_unwired (n : Node) (name : String) :
    n.unwired.input? name = (n.input? name).map InputSlot.unwired := by
  unfold input? unwired
  rw [List.find?_map]
  rfl

theorem Node.isSome_input?_unwired (n : Node) (name : String) :
    (n.unwired.input? name).isSome = (n.input? name).isSome := by
  rw [input?_unwired, Option.isSome_map]

theorem drawable_unwired : g.unwired.Drawable e ↔ g.Drawable e := by
  constructor
  · rintro ⟨offered, n, found, slot⟩
    rw [node?_unwired] at found
    obtain ⟨m, there, rfl⟩ := Option.map_eq_some_iff.mp found
    exact ⟨offers_unwired.mp offered, m, there, by rwa [Node.isSome_input?_unwired] at slot⟩
  · rintro ⟨offered, n, found, slot⟩
    refine ⟨offers_unwired.mpr offered, n.unwired, ?_, ?_⟩
    · rw [node?_unwired, found]
      rfl
    · rwa [Node.isSome_input?_unwired]

theorem drawable_congr (same : g.unwired = h.unwired) : g.Drawable e ↔ h.Drawable e := by
  rw [← drawable_unwired, same, drawable_unwired]

theorem offers_congr (same : g.unwired = h.unwired) {c : Connection} : g.Offers c ↔ h.Offers c := by
  rw [← offers_unwired, same, offers_unwired]

/-! ## What wires determine -/

/-- **Tidy graphs are equal** if they have the same bare nodes and the same
wires. -/
theorem eq_of_wires (tidy : g.Tidy) (tidy' : h.Tidy) (same : g.unwired = h.unwired)
    (wires : ∀ id name, g.wires id name = h.wires id name) : g = h := by
  have bare : g.nodes.map Node.unwired = h.nodes.map Node.unwired := congrArg Graph.nodes same
  have length : g.nodes.length = h.nodes.length := by simpa using congrArg List.length bare
  refine eq_of_nodes (List.ext_getElem length fun i hi hi' => ?_)
  have alike : g.nodes[i].unwired = h.nodes[i].unwired := by
    have at_i := List.getElem_of_eq bare (i := i) (by simpa using hi)
    rwa [List.getElem_map, List.getElem_map] at at_i
  have mem := List.getElem_mem hi
  have mem' := List.getElem_mem hi'
  have found : g.node? g.nodes[i].id = some g.nodes[i] := node?_eq_some_iff.mpr ⟨mem, rfl⟩
  have found' : h.node? g.nodes[i].id = some h.nodes[i] :=
    node?_eq_some_iff.mpr ⟨mem', (congrArg Node.id alike).symm⟩
  refine Node.eq_of_linksAt (tidy _ mem) (tidy' _ mem') alike fun name => ?_
  have here := wires g.nodes[i].id name
  unfold Graph.wires at here
  rwa [found, found'] at here

theorem wires_unwired (g : Graph) (id name : String) : g.unwired.wires id name = [] := by
  unfold wires
  rw [node?_unwired]
  cases g.node? id with
  | none => rfl
  | some n => exact InputSlot.linksAt_map_unwired n.inputs name

/-- No input of a tidy graph is fed twice from one source. -/
theorem nodup_wires (tidy : g.Tidy) (id name : String) : (g.wires id name).Nodup := by
  unfold wires
  cases found : g.node? id with
  | none => exact List.nodup_nil
  | some n => exact (tidy n (node?_eq_some_iff.mp found).1).nodup_linksAt name

theorem flatMap_ite_id {α : Type} (g : Graph) (id : String) (f : Node → List α) :
    (g.nodes.flatMap fun n => if n.id = id then f n else []) = (g.node? id).elim [] f := by
  obtain ⟨nodes, distinct⟩ := g
  show (nodes.flatMap fun n => if n.id = id then f n else [])
    = (nodes.find? fun n => n.id = id).elim [] f
  induction nodes with
  | nil => rfl
  | cons n nodes ih =>
    rw [List.map_cons, List.nodup_cons] at distinct
    rw [List.flatMap_cons, List.find?_cons]
    by_cases here : n.id = id
    · have behind : (nodes.flatMap fun m => if m.id = id then f m else []) = [] := by
        rw [List.flatMap_eq_nil_iff]
        intro m hm
        exact if_neg fun same => distinct.1 (List.mem_map.mpr ⟨m, hm, same.trans here.symm⟩)
      rw [if_pos here, decide_eq_true here, behind, List.append_nil]
      rfl
    · rw [if_neg here, decide_eq_false here, List.nil_append]
      exact ih distinct.2

/-- **The edges into an input** come from the sources that feed it, in that
order. -/
theorem map_source_filter_edges (tidy : g.Tidy) (id name : String) :
    (g.edges.filter fun e => e.leadsTo id name).map Edge.source = g.wires id name := by
  unfold edges wires
  rw [List.filter_flatMap, List.map_flatMap, ← g.flatMap_ite_id id fun n => n.linksAt name]
  have each : ∀ n ∈ g.nodes, (n.edges.filter fun e => e.leadsTo id name).map Edge.source
      = if n.id = id then n.linksAt name else [] :=
    fun n hn => Node.map_source_filter_edges (tidy n hn) id name
  rw [List.flatMap_def, List.flatMap_def, List.map_congr_left each]

/-! ## Drawing and cutting -/

theorem unwired_updateTarget {change : InputSlot → InputSlot}
    (rewires : InputSlot.Rewires change) (g : Graph) (e : Edge) :
    (g.updateTarget e change).unwired = g.unwired := by
  have each : ∀ n : Node, Node.unwired
      { (if n.id = e.targetNode then n.updateInput e.targetInput change else n) with id := n.id }
      = n.unwired := by
    intro n
    split
    · exact Node.unwired_updateInput rewires n e.targetInput
    · rfl
  refine eq_of_nodes ?_
  show (g.nodes.map _).map Node.unwired = g.nodes.map Node.unwired
  rw [List.map_map]
  exact List.map_congr_left fun n _ => each n

/-- **Rewiring an input** changes what feeds it, and nothing else. -/
theorem wires_updateTarget {change : InputSlot → InputSlot}
    (rewires : InputSlot.Rewires change) (g : Graph) (e : Edge) (id name : String) :
    (g.updateTarget e change).wires id name
      = if e.leadsTo id name then
          ((g.node? e.targetNode).bind fun n => n.input? e.targetInput).elim []
            fun s => (change s).links
        else g.wires id name := by
  unfold wires updateTarget updateNode Edge.leadsTo
  rw [node?_mapNodes]
  by_cases here : e.targetNode = id
  · subst here
    cases found : g.node? e.targetNode with
    | none => simp
    | some n =>
      have same : n.id = e.targetNode := (node?_eq_some_iff.mp found).2
      have links := InputSlot.linksAt_updateFirst rewires n.inputs e.targetInput name
      simp only [Option.map_some, Option.elim_some, same, if_true, Option.bind_some, true_and,
        decide_eq_true_eq, eq_comm (a := e.targetInput)]
      exact links
  · have other : decide (e.targetNode = id ∧ e.targetInput = name) = false :=
      decide_eq_false fun h => here h.1
    rw [other, if_neg Bool.false_ne_true]
    cases found : g.node? id with
    | none => rfl
    | some n =>
      have apart : n.id ≠ e.targetNode := fun same =>
        here (same.symm.trans (node?_eq_some_iff.mp found).2)
      simp only [Option.map_some, Option.elim_some, if_neg apart]

/-- Changing an input without feeding it twice keeps a graph tidy. -/
theorem Tidy.updateTarget (tidy : g.Tidy) {change : InputSlot → InputSlot}
    (rewires : InputSlot.Rewires change)
    (nodup : ∀ s : InputSlot, s.links.Nodup → (change s).links.Nodup) (e : Edge) :
    (g.updateTarget e change).Tidy := by
  intro n hn
  obtain ⟨m, hm, rfl⟩ := List.mem_map.mp hn
  dsimp only
  split
  · exact (tidy m hm).updateFirst rewires nodup e.targetInput
  · exact tidy m hm

/-- The graph with one more edge. -/
def draw (g : Graph) (e : Edge) : Graph := g.updateTarget e fun s => s.link e.source

theorem unwired_draw (g : Graph) (e : Edge) : (g.draw e).unwired = g.unwired :=
  unwired_updateTarget (InputSlot.rewires_link e.source) g e

/-- Drawing an edge keeps no other from being drawn. -/
theorem Drawable.draw {e' : Edge} (drawable : g.Drawable e') (e : Edge) : (g.draw e).Drawable e' :=
  (drawable_congr (g.unwired_draw e)).mpr drawable

theorem Tidy.draw (tidy : g.Tidy) (e : Edge) : (g.draw e).Tidy := by
  refine tidy.updateTarget (InputSlot.rewires_link e.source) (fun s nodup => ?_) e
  rw [InputSlot.links_link]
  exact InputSlot.nodup_added nodup e.source

/-- **Drawing an edge adds its source** to what feeds its target. -/
theorem wires_draw (drawable : g.Drawable e) (id name : String) :
    (g.draw e).wires id name
      = if e.leadsTo id name then InputSlot.added (g.wires id name) e.source
        else g.wires id name := by
  unfold draw
  rw [wires_updateTarget (InputSlot.rewires_link e.source)]
  split
  · next here =>
    obtain ⟨rfl, rfl⟩ := of_decide_eq_true here
    obtain ⟨n, found, slot⟩ := drawable.received
    obtain ⟨s, hs⟩ := Option.isSome_iff_exists.mp slot
    unfold wires
    rw [found, Option.bind_some, Option.elim_some, Node.linksAt_eq_elim, hs]
    exact s.links_link e.source
  · rfl

/-- The input of an edge that can be drawn is fed by its wires; for an edge that
cannot be drawn something is missing. -/
theorem wiresAt_cases (g : Graph) (e : Edge) :
    (g.Drawable e ∧ g.wiresAt e = .ok (g.wires e.targetNode e.targetInput))
      ∨ ¬g.Drawable e ∧ ∃ obstacle, g.wiresAt e = .error obstacle := by
  cases source : g.node? e.sourceNode with
  | none =>
    refine Or.inr ⟨?_, .sourceNode, by simp only [wiresAt, source]⟩
    rintro ⟨⟨n, found, -⟩, -⟩
    cases source.symm.trans found
  | some n =>
    cases output : n.hasOutput e.sourceOutput with
    | false =>
      refine Or.inr ⟨?_, .sourceOutput, by simp [wiresAt, source, output]⟩
      rintro ⟨⟨n', found, there⟩, -⟩
      cases source.symm.trans found
      cases output.symm.trans there
    | true =>
      cases target : g.node? e.targetNode with
      | none =>
        refine Or.inr ⟨?_, .targetNode, by simp [wiresAt, source, output, target]⟩
        rintro ⟨-, m, found, -⟩
        cases target.symm.trans found
      | some m =>
        cases slot : m.input? e.targetInput with
        | none =>
          refine Or.inr ⟨?_, .targetInput, by simp [wiresAt, source, output, target, slot]⟩
          rintro ⟨-, m', found, there⟩
          cases target.symm.trans found
          rw [slot] at there
          cases there
        | some s =>
          have wires : g.wires e.targetNode e.targetInput = s.links := by
            unfold Graph.wires
            rw [target, Option.elim_some, Node.linksAt_eq_elim, slot]
            rfl
          refine Or.inl ⟨⟨⟨n, source, output⟩, m, target, by rw [slot]; rfl⟩, ?_⟩
          simp [wiresAt, source, output, target, slot, wires]

/-- **An edge is drawn if it can be**, and is refused if not. -/
theorem wire_cases (g : Graph) (e : Edge) :
    (g.Drawable e ∧ ∃ new, g.wire e = .ok (g.draw e, new))
      ∨ ¬g.Drawable e ∧ ∃ obstacle, g.wire e = .error obstacle := by
  unfold wire
  rcases g.wiresAt_cases e with ⟨drawable, fed⟩ | ⟨blocked, obstacle, missing⟩
  · rw [fed]
    exact Or.inl ⟨drawable, _, rfl⟩
  · rw [missing]
    exact Or.inr ⟨blocked, obstacle, rfl⟩

/-! ## Drawing many edges -/

/-- What every edge that can be drawn keeps, all edges of a definition keep. -/
theorem wireAll_preserves {P : Graph → Prop}
    (step : ∀ (g : Graph) (e : Edge), g.Drawable e → P g → P (g.draw e)) (es : List Edge)
    (hg : P g) : P (wireAll g es).graph := by
  unfold wireAll
  suffices ∀ r : Report, P r.graph → P (es.foldl _ r).graph from this ⟨g, []⟩ hg
  intro r hr
  induction es generalizing r with
  | nil => exact hr
  | cons e es ih =>
    rw [List.foldl_cons]
    refine ih _ ?_
    rcases r.graph.wire_cases e with ⟨drawable, new, drawn⟩ | ⟨-, obstacle, refused⟩
    · rw [drawn]
      exact step r.graph e drawable hr
    · rw [refused]
      exact hr

/-- **Edges that can all be drawn** are drawn one after the other, and nothing
is wrong with them. -/
theorem wireAll_of_drawable (drawable : ∀ e ∈ es, g.Drawable e) :
    wireAll g es = ⟨es.foldl draw g, []⟩ := by
  unfold wireAll
  induction es generalizing g with
  | nil => rfl
  | cons e es ih =>
    have here : g.Drawable e := drawable e List.mem_cons_self
    have rest : ∀ e' ∈ es, (g.draw e).Drawable e' := fun e' he' =>
      (drawable e' (List.mem_cons_of_mem e he')).draw e
    obtain ⟨-, new, drawn⟩ | ⟨refused, -⟩ := g.wire_cases e
    · rw [List.foldl_cons, List.foldl_cons, drawn]
      exact ih rest
    · exact absurd here refused

end Graph

end AgentWorkflow
