import AgentWorkflow.Proofs.Marks

/-!
# Marks of gates that no longer wait

The approval of a gate and its mark on the canvas are kept in two places. Whoever
ends an approval has to take the mark off: an answer does, and so do a snapshot
that passes the gate and the end of the run. Beginning to watch and turning to a
finished run do not. They drop the gate that waits and leave the graph alone, so a
node goes on being shown as one that waits although nobody can answer it
(`Session.gated_nodes_wait_iff`).

**How long it lasts.** The same two operations forget which nodes were marked
last, so the next snapshot that is taken over marks all nodes anew, and the mark is
gone. The induction rests on this: as long as there is a mark too many, no gate
waits and no signature is kept (`Session.Owed`). Without it a snapshot could be
skipped because it reports the same nodes as the last one.
-/

namespace AgentWorkflow

namespace Session

/-- **A node is marked as a gate, and is not the one that waits.** -/
def HasStrayMark (s : Session) : Prop :=
  ∃ id, s.graph.Gated id ∧ s.approvals.outstanding.map ApprovalRequest.nodeId ≠ some id

/-- The operation is carried out by the session itself: nobody edits the graph or
marks failed nodes, and what is loaded waits nowhere. -/
def Operation.Displays : Operation → Prop
  | .editGraph _ | .markFailedFrontier _ => False
  | .loadDefinition _ report => ∀ n ∈ report.graph.nodes, n.status ≠ .gated
  | _ => True

/-- **The operation drops the gate that waits** and leaves its mark on the graph. -/
def LeavesMark (s : Session) : Operation → Prop
  | .startPolling | .loadHistorical _ =>
    ∃ r, s.approvals.outstanding = some r ∧ s.graph.Gated r.nodeId
  | _ => False

/-- **The operation shows all nodes anew.** -/
def Redraws (s : Session) : Operation → Prop
  | .dispose | .loadDefinition _ _ => True
  | .applySnapshot ticket _ _ => ticket = s.beginFetch ∧ s.state ≠ .idle
  | _ => False

/-- A mark too many will go with the next snapshot: nothing waits, and no nodes
count as marked. -/
def Owed (s : Session) : Prop :=
  s.HasStrayMark → s.approvals.outstanding = none ∧ s.signature = none

variable {s : Session} {op : Operation}

theorem not_hasStrayMark_iff :
    ¬s.HasStrayMark
      ↔ ∀ id, s.graph.Gated id → s.approvals.outstanding.map ApprovalRequest.nodeId = some id := by
  unfold HasStrayMark
  simp only [not_exists, not_and, ne_eq, Classical.not_not]

/-! ## Snapshots -/

/-- A graph whose nodes were marked anew has no mark too many, and one whose nodes
were not had none before. -/
theorem not_hasStrayMark_marked (owed : s.Owed) (requestId : String) (snapshot : Snapshot) :
    ¬(s.marked requestId snapshot).HasStrayMark := by
  have anew : ∀ id, (s.markExecuted snapshot).graph.Gated id →
      s.approvals.outstanding.map ApprovalRequest.nodeId = some id :=
    fun id gated => (s.showsStatuses_markExecuted snapshot).waits_of_gated gated
  rw [not_hasStrayMark_iff]
  intro id gated
  change (s.markedGraph requestId snapshot).Gated id at gated
  unfold markedGraph at gated
  split at gated
  · next same =>
    have none_stray : ¬s.HasStrayMark := fun stray => by
      have forgotten := (owed stray).2
      rw [forgotten] at same
      exact absurd same.2 nofun
    exact not_hasStrayMark_iff.mp none_stray id gated
  · exact anew id gated

/-- Where no mark is too many, freeing the gate that waits leaves none. -/
theorem not_gated_freedGraph (none_stray : ¬s.HasStrayMark) (id : String) :
    ¬s.freedGraph.Gated id := by
  rw [gated_freedGraph_iff]
  rintro ⟨gated, other⟩
  exact none_stray ⟨id, gated, other⟩

theorem not_hasStrayMark_detectGate (none_stray : ¬s.HasStrayMark) (requestId : String)
    (snapshot : Snapshot) :
    ¬(s.detectGate requestId snapshot).value.1.HasStrayMark := by
  rcases s.value_detectGate requestId snapshot with passed | waits | ⟨r, raised⟩
  · rw [passed]
    rintro ⟨id, gated, -⟩
    exact not_gated_freedGraph none_stray id gated
  · rw [waits]
    exact none_stray
  · rw [raised]
    rintro ⟨id, gated, other⟩
    rcases Graph.eq_or_gated_of_gated_gate gated with rfl | gated
    · exact other rfl
    · exact not_gated_freedGraph none_stray id gated

/-- **A snapshot that is taken over** leaves no mark too many. -/
theorem not_hasStrayMark_applySnapshot (owed : s.Owed) {ticket : FetchTicket}
    (current : ticket = s.beginFetch ∧ s.state ≠ .idle) (requestId : String)
    (snapshot : Snapshot) :
    ¬(s.applySnapshot ticket requestId snapshot).value.1.HasStrayMark := by
  have inTime := not_stale_iff.mpr current
  have marked := not_hasStrayMark_marked owed requestId snapshot
  cases mode : s.mode with
  | live =>
    rw [applySnapshot_of_live inTime mode]
    exact not_hasStrayMark_detectGate marked requestId snapshot
  | historical runId =>
    rw [applySnapshot_of_historical inTime mode]
    exact marked

/-! ## One operation -/

theorem hasStrayMark_of_dropped {s' : Session} (graph : s'.graph = s.graph)
    (dropped : s'.approvals.outstanding = none) :
    s'.HasStrayMark ↔ (∃ r, s.approvals.outstanding = some r ∧ s.graph.Gated r.nodeId)
      ∨ s.HasStrayMark := by
  have any : s'.HasStrayMark ↔ ∃ id, s.graph.Gated id := by
    unfold HasStrayMark
    rw [graph, dropped]
    simp
  rw [any]
  constructor
  · rintro ⟨id, gated⟩
    by_cases waits : s.approvals.outstanding.map ApprovalRequest.nodeId = some id
    · obtain ⟨r, hr, rfl⟩ := Option.map_eq_some_iff.mp waits
      exact Or.inl ⟨r, hr, gated⟩
    · exact Or.inr ⟨id, gated, waits⟩
  · rintro (⟨r, -, gated⟩ | ⟨id, gated, -⟩)
    · exact ⟨r.nodeId, gated⟩
    · exact ⟨id, gated⟩

theorem hasStrayMark_of_freed {s' : Session} (graph : s'.graph = s.freedGraph)
    (dropped : s'.approvals.outstanding = none) : s'.HasStrayMark ↔ s.HasStrayMark := by
  unfold HasStrayMark
  rw [graph, dropped]
  simp only [gated_freedGraph_iff, Option.map_none, ne_eq, reduceCtorEq, not_false_eq_true,
    and_true]

/-- **A mark is one too many after an operation** if the operation left it behind, or
if it was so before and nodes were not shown anew. -/
theorem hasStrayMark_perform_iff (displays : op.Displays) (owed : s.Owed) :
    (s.perform op).value.HasStrayMark ↔ s.LeavesMark op ∨ s.HasStrayMark ∧ ¬s.Redraws op := by
  have dropped {s' : Session} (graph : s'.graph = s.graph)
      (none : s'.approvals.outstanding = none) :
      s'.HasStrayMark ↔ (∃ r, s.approvals.outstanding = some r ∧ s.graph.Gated r.nodeId)
        ∨ s.HasStrayMark ∧ ¬False := by
    rw [hasStrayMark_of_dropped graph none, not_false_eq_true, and_true]
  have stays {s' : Session} (same : s'.HasStrayMark ↔ s.HasStrayMark) :
      s'.HasStrayMark ↔ False ∨ s.HasStrayMark ∧ ¬False := by
    rw [same, false_or, not_false_eq_true, and_true]
  have redrawn {s' : Session} (none_stray : ¬s'.HasStrayMark) :
      s'.HasStrayMark ↔ False ∨ s.HasStrayMark ∧ ¬True := by
    simp only [none_stray, not_true_eq_false, and_false, or_false]
  cases op with
  | startPolling =>
    unfold perform startPolling
    rw [value_transition]
    exact dropped rfl rfl
  | stopPolling =>
    unfold perform stopPolling
    rw [value_transition]
    exact stays Iff.rfl
  | dispose =>
    unfold perform dispose
    rw [value_transition]
    exact redrawn fun ⟨_, ⟨_, hn, _⟩, _⟩ => List.not_mem_nil hn
  | loadHistorical runId =>
    unfold perform loadHistorical
    rw [Publishing.value_bind, value_transition, Approvals.value_clear]
    exact dropped rfl rfl
  | loadDefinition name report =>
    exact redrawn fun ⟨_, ⟨n, hn, _, status⟩, _⟩ => displays n hn status
  | applySnapshot ticket requestId snapshot =>
    rw [perform, Publishing.value_map]
    by_cases stale : ticket ≠ s.beginFetch ∨ s.state = .idle
    · have late : ¬(ticket = s.beginFetch ∧ s.state ≠ .idle) :=
        fun current => not_stale_iff.mpr current stale
      rw [applySnapshot_of_stale stale]
      exact ((or_iff_right not_false).trans (and_iff_left late)).symm
    · have current := not_stale_iff.mp stale
      have none_stray := not_hasStrayMark_applySnapshot owed current requestId snapshot
      exact iff_of_false none_stray fun h => h.elim id fun h => h.2 current
  | completeApproval requestId approved =>
    rcases s.approvals.waits_or_absent requestId with ⟨r, waiting, rfl⟩ | absent
    · rw [perform_completeApproval_of_waiting approved waiting]
      exact stays (hasStrayMark_of_freed (graph_answered waiting) rfl)
    · rw [perform_completeApproval_of_absent approved absent]
      exact stays Iff.rfl
  | clearInstance =>
    cases watched : s.requestId with
    | none =>
      unfold perform clearInstance
      rw [watched]
      exact stays Iff.rfl
    | some requestId =>
      unfold perform
      rw [clearInstance_of_watched watched]
      exact stays (hasStrayMark_of_freed rfl rfl)
  | markFailedFrontier | editGraph => exact displays.elim

/-- **What is owed stays owed** until it is redrawn. -/
theorem owed_perform (displays : op.Displays) (owed : s.Owed) : (s.perform op).value.Owed := by
  intro stray
  have before := (hasStrayMark_perform_iff displays owed).mp stray
  cases op with
  | startPolling =>
    unfold perform startPolling
    rw [value_transition]
    exact ⟨rfl, rfl⟩
  | stopPolling =>
    unfold perform stopPolling
    rw [value_transition]
    exact owed (before.resolve_left id).1
  | dispose => exact absurd trivial (before.resolve_left id).2
  | loadHistorical runId =>
    unfold perform loadHistorical
    rw [Publishing.value_bind, value_transition, Approvals.value_clear]
    exact ⟨rfl, rfl⟩
  | loadDefinition name report => exact absurd trivial (before.resolve_left id).2
  | applySnapshot ticket requestId snapshot =>
    obtain ⟨stray, late⟩ := before.resolve_left id
    have stale := Classical.byContradiction fun h => late (not_stale_iff.mp h)
    rw [perform, Publishing.value_map, applySnapshot_of_stale stale]
    exact owed stray
  | completeApproval requestId approved =>
    obtain ⟨none, forgotten⟩ := owed (before.resolve_left id).1
    have absent : ∀ r, s.approvals.outstanding = some r → r.requestId ≠ requestId :=
      fun r waiting => absurd (none.symm.trans waiting) nofun
    rw [perform_completeApproval_of_absent approved absent]
    exact ⟨none, forgotten⟩
  | clearInstance =>
    obtain ⟨none, forgotten⟩ := owed (before.resolve_left id).1
    cases watched : s.requestId with
    | none =>
      unfold perform clearInstance
      rw [watched]
      exact ⟨none, forgotten⟩
    | some requestId =>
      unfold perform
      rw [clearInstance_of_watched watched]
      exact ⟨rfl, forgotten⟩
  | markFailedFrontier | editGraph => exact displays.elim

/-! ## Runs -/

/-- **Who is shown as waiting waits, unless a gate was dropped with its mark left on**
and no nodes were shown anew since. Beginning to watch and turning to a finished run
are what drops a gate so. -/
theorem gated_nodes_wait_iff (gateType : String) {ops : List Operation}
    (displays : ∀ op ∈ ops, op.Displays) :
    let s := ((initial gateType).performAll ops).value
    (∀ n ∈ s.graph.nodes, n.status = .gated →
        ∃ r, s.approvals.outstanding = some r ∧ r.nodeId = n.id)
      ↔ ¬∃ u op v, ops = u ++ op :: v
          ∧ LeavesMark ((initial gateType).performAll u).value op
          ∧ Publishing.Never perform Redraws
              ((initial gateType).performAll (u ++ [op])).value v := by
  intro s
  have clean : ¬(initial gateType).HasStrayMark := fun ⟨_, ⟨_, hn, _⟩, _⟩ => List.not_mem_nil hn
  have run := Publishing.foldlM_iff_of_step_of_kept (P := HasStrayMark) (I := Owed)
    (fun op mem s owed => owed_perform (displays op mem) owed)
    (fun op mem s owed => hasStrayMark_perform_iff (displays op mem) owed)
    (s := initial gateType) (fun stray => absurd stray clean)
  have stray : s.HasStrayMark ↔ _ := run.trans (or_iff_left fun h => clean h.1)
  have waits : (∀ n ∈ s.graph.nodes, n.status = .gated →
      ∃ r, s.approvals.outstanding = some r ∧ r.nodeId = n.id) ↔ ¬s.HasStrayMark := by
    rw [not_hasStrayMark_iff]
    constructor
    · rintro each id ⟨n, hn, rfl, gated⟩
      exact Option.map_eq_some_iff.mpr (each n hn gated)
    · exact fun each n hn gated => Option.map_eq_some_iff.mp (each n.id ⟨n, hn, rfl, gated⟩)
  exact waits.trans (not_congr stray)

/-- A gate that waits is shown as waiting. -/
theorem gated_nodes_wait_at_gate :
    let s := ((initial "GateNode").performAll toGate).value
    (∀ op ∈ toGate, op.Displays)
      ∧ s.graph.Gated "gate" ∧ ∀ n ∈ s.graph.nodes, n.status = .gated →
        ∃ r, s.approvals.outstanding = some r ∧ r.nodeId = n.id := by
  intro s
  have displays : ∀ op ∈ toGate, op.Displays := by
    have plain : ∀ n ∈ Graph.singleGate.nodes, n.status ≠ .gated := by decide
    exact List.forall_mem_cons.mpr
      ⟨plain, List.forall_mem_cons.mpr ⟨trivial, List.forall_mem_cons.mpr ⟨trivial, nofun⟩⟩⟩
  refine ⟨displays, ⟨_, List.mem_cons_self, rfl, rfl⟩,
    (gated_nodes_wait_iff "GateNode" displays).mpr ?_⟩
  -- watching begins once, before any gate waits
  have never : Publishing.Never perform LeavesMark (initial "GateNode") toGate := by
    unfold toGate
    rw [Publishing.never_cons, Publishing.never_cons, Publishing.never_cons]
    refine ⟨id, ?_, id, Publishing.never_nil _ _ _⟩
    rintro ⟨r, none, -⟩
    cases none
  exact fun ⟨u, op, v, split, left, _⟩ => never ⟨u, op, v, split, left⟩

/-- **A gate that was dropped is still shown as waiting**, whether watching began anew
or a finished run was turned to. -/
theorem gate_shown_after_dropped :
    let restarted := ((initial "GateNode").performAll (toGate ++ [.startPolling])).value
    let reviewed := ((initial "GateNode").performAll (toGate ++ [.loadHistorical "old"])).value
    restarted.approvals.outstanding = none ∧ restarted.graph.Gated "gate"
      ∧ reviewed.approvals.outstanding = none ∧ reviewed.graph.Gated "gate" :=
  ⟨rfl, ⟨_, List.mem_cons_self, rfl, rfl⟩, rfl, ⟨_, List.mem_cons_self, rfl, rfl⟩⟩

end Session

end AgentWorkflow
