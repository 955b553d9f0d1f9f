import AgentWorkflow.Proofs.GateDetection
import AgentWorkflow.Proofs.Marks
import AgentWorkflow.Proofs.Signatures

/-!
# The display tells the truth

A snapshot says which nodes have run. After a poll has taken one over, every node
that is shown says the same: it has run or not, it keeps an output exactly if it has,
and the one gate that waits is marked as such (`Monitor.display_tells_the_truth`).

**Why this has to be proved.** Nodes are not marked anew if the signature of the
snapshot is the one that was marked last. What is shown then goes back to an earlier
snapshot, and much may have happened since: gates were raised, answered and passed,
runs changed, other definitions were shown, finished runs were looked at. It is still
right because of what is kept in between: as long as a live run is looked at and a
signature is remembered, the display shows some snapshot of that signature
(`Session.Truthful`). Whatever could break this forgets the signature.

**What a signature tells.** It joins the ids of the nodes by line breaks, so it tells
which they are only if no id is empty or has a line break in it
(`Snapshot.Clean`). Two other snapshots may have one signature and different nodes.

**What is taken for granted.** The properties of a node arrive as an object, and an
object has no key twice. A node with two outputs kept for it would keep one of them
when they are forgotten.
-/

namespace AgentWorkflow

namespace Session

variable {s : Session} {op : Operation} {requestId : String} {snapshot : Snapshot}
  {ran : List String}

/-! ## What is shown -/

/-- **The display shows a run** in which exactly these nodes have run. -/
structure Shows (s : Session) (ran : List String) : Prop where
  /-- The node that waits is marked, and so are those that have run. -/
  statuses : s.graph.ShowsStatuses (s.approvals.outstanding.map ApprovalRequest.nodeId) ran
  /-- Outputs are kept for those that have run. -/
  outputs : s.graph.ShowsOutputs ran

/-- A run is shown on when the gate that waited is freed. -/
theorem Shows.freed {s' : Session} (h : s.Shows ran) (graph : s'.graph = s.freedGraph)
    (dropped : s'.approvals.outstanding = none) : s'.Shows ran where
  statuses := by
    rw [graph, dropped]
    exact showsStatuses_freedGraph h.statuses h.outputs
  outputs := graph ▸ showsOutputs_freedGraph h.outputs

theorem Shows.detectGate (h : s.Shows ran) (requestId : String) (snapshot : Snapshot) :
    (s.detectGate requestId snapshot).value.1.Shows ran := by
  rcases s.value_detectGate requestId snapshot with passed | waits | ⟨r, raised⟩
  · rw [passed]
    exact h.freed rfl rfl
  · rw [waits]
    exact h
  · rw [raised]
    have freed : s.passed.Shows ran := h.freed rfl rfl
    exact ⟨freed.statuses.gate r.nodeId, freed.outputs.updateNode r.nodeId fun _ => rfl⟩

/-- Marking nodes anew shows the snapshot. -/
theorem shows_markExecuted (distinct : s.graph.DistinctKeys) (snapshot : Snapshot) :
    (s.markExecuted snapshot).Shows snapshot.executedIds :=
  ⟨s.showsStatuses_markExecuted snapshot, showsOutputs_markExecuted distinct snapshot⟩

/-! ## What is kept in between -/

/-- **Nothing is remembered that is not shown**: no node has two properties of one
key, and while live runs are looked at, a signature that is remembered is that of a
snapshot that is shown. -/
structure Truthful (s : Session) : Prop where
  /-- No node has two properties of one key. -/
  distinct : s.graph.DistinctKeys
  /-- A signature that is remembered is that of a snapshot that is shown. -/
  remembered : s.mode = .live → ∀ signature, s.signature = some signature →
    ∃ shown : Snapshot, shown.Clean ∧ shown.signature = signature ∧ s.Shows shown.executedIds

/-- Who remembers nothing tells no lies. -/
theorem Truthful.of_forgotten (distinct : s.graph.DistinctKeys) (forgotten : s.signature = none) :
    s.Truthful :=
  ⟨distinct, fun _ _ remembered => absurd (forgotten.symm.trans remembered) nofun⟩

/-- **A snapshot that is taken over is shown**, whether nodes were marked anew or
not. -/
theorem Truthful.shows_marked (h : s.Truthful) (live : s.mode = .live) (clean : snapshot.Clean)
    (requestId : String) : (s.marked requestId snapshot).Shows snapshot.executedIds := by
  suffices ∃ graph, s.markedGraph requestId snapshot = graph
      ∧ { s with graph }.Shows snapshot.executedIds by
    obtain ⟨_, rfl, shows⟩ := this
    exact ⟨shows.statuses, shows.outputs⟩
  unfold markedGraph
  split
  · next same =>
    obtain ⟨shown, clean', signature, shows⟩ := h.remembered live _ same.2
    have ids := clean'.mem_executedIds_iff clean signature
    exact ⟨_, rfl, shows.statuses.congr ids, shows.outputs.congr ids⟩
  · exact ⟨_, rfl, shows_markExecuted h.distinct snapshot⟩

theorem Truthful.congr {s' : Session} (h : s.Truthful) (graph : s'.graph = s.graph)
    (outstanding : s'.approvals.outstanding = s.approvals.outstanding) (mode : s'.mode = s.mode)
    (signature : s'.signature = s.signature) : s'.Truthful where
  distinct := graph ▸ h.distinct
  remembered live sig known := by
    obtain ⟨shown, clean, same, shows⟩ :=
      h.remembered (mode ▸ live) sig (signature.symm.trans known)
    refine ⟨shown, clean, same, ?_, graph ▸ shows.outputs⟩
    rw [graph, outstanding]
    exact shows.statuses

theorem Truthful.freed {s' : Session} (h : s.Truthful) (graph : s'.graph = s.freedGraph)
    (dropped : s'.approvals.outstanding = none) (mode : s'.mode = s.mode)
    (signature : s'.signature = s.signature) : s'.Truthful where
  distinct := graph ▸ distinctKeys_freedGraph h.distinct
  remembered live sig known := by
    obtain ⟨shown, clean, same, shows⟩ :=
      h.remembered (mode ▸ live) sig (signature.symm.trans known)
    exact ⟨shown, clean, same, shows.freed graph dropped⟩

theorem distinctKeys_detectGate (distinct : s.graph.DistinctKeys) (requestId : String)
    (snapshot : Snapshot) :
    (s.detectGate requestId snapshot).value.1.graph.DistinctKeys := by
  rcases s.value_detectGate requestId snapshot with passed | waits | ⟨r, raised⟩
  · rw [passed]
    exact distinctKeys_freedGraph distinct
  · rw [waits]
    exact distinct
  · rw [raised]
    exact (distinctKeys_freedGraph distinct).updateNode r.nodeId fun _ apart => apart

theorem distinctKeys_marked (distinct : s.graph.DistinctKeys) (requestId : String)
    (snapshot : Snapshot) : (s.marked requestId snapshot).graph.DistinctKeys := by
  show (s.markedGraph requestId snapshot).DistinctKeys
  unfold markedGraph
  split
  · exact distinct
  · exact distinctKeys_markExecuted distinct snapshot

/-- **After a snapshot of a live run was taken over, it is shown.** -/
theorem Truthful.shows_applySnapshot {ticket : FetchTicket} (h : s.Truthful)
    (live : s.mode = .live) (clean : snapshot.Clean)
    (inTime : ¬(ticket ≠ s.beginFetch ∨ s.state = .idle)) :
    (s.applySnapshot ticket requestId snapshot).value.1.Shows snapshot.executedIds := by
  rw [applySnapshot_of_live inTime live]
  exact (h.shows_marked live clean requestId).detectGate requestId snapshot

/-- **Taking a snapshot over leaves the display truthful**, if its ids fill lines. Of
finished runs, which are looked at once, nothing is asked. -/
theorem Truthful.applySnapshot {ticket : FetchTicket} (h : s.Truthful)
    (clean : s.mode = .live → snapshot.Clean) :
    (s.applySnapshot ticket requestId snapshot).value.1.Truthful := by
  by_cases stale : ticket ≠ s.beginFetch ∨ s.state = .idle
  · rw [applySnapshot_of_stale stale]
    exact h
  have marked := distinctKeys_marked h.distinct requestId snapshot
  cases mode : s.mode with
  | live =>
    have shows : (s.applySnapshot ticket requestId snapshot).value.1.Shows snapshot.executedIds :=
      h.shows_applySnapshot mode (clean mode) stale
    rw [applySnapshot_of_live stale mode] at shows ⊢
    refine ⟨distinctKeys_detectGate marked requestId snapshot, fun _ _ known => ?_⟩
    have signature := (s.marked requestId snapshot).signature_detectGate requestId snapshot
    exact ⟨snapshot, clean mode, Option.some.inj (signature.symm.trans known), shows⟩
  | historical runId =>
    rw [applySnapshot_of_historical stale mode]
    exact ⟨marked, fun live => absurd (mode.symm.trans live) nofun⟩

/-- **The operation is one of a display that nobody edits.** What is loaded has no key
twice, ids in snapshots of live runs fill lines, and nodes are marked as failed only
where a finished run is looked at. -/
def Faithful (s : Session) : Operation → Prop
  | .editGraph _ => False
  | .loadDefinition _ report => report.graph.DistinctKeys
  | .applySnapshot _ _ snapshot => s.mode = .live → snapshot.Clean
  | .markFailedFrontier _ => s.mode ≠ .live
  | _ => True

/-- **Every operation leaves the display truthful.** -/
theorem Truthful.perform (h : s.Truthful) (faithful : s.Faithful op) :
    (s.perform op).value.Truthful := by
  cases op with
  | startPolling =>
    unfold Session.perform startPolling
    rw [value_transition]
    exact .of_forgotten h.distinct rfl
  | stopPolling =>
    unfold Session.perform stopPolling
    rw [value_transition]
    exact h.congr rfl rfl rfl rfl
  | dispose =>
    unfold Session.perform dispose
    rw [value_transition]
    exact .of_forgotten nofun rfl
  | loadHistorical runId =>
    unfold Session.perform loadHistorical
    rw [Publishing.value_bind, value_transition]
    exact .of_forgotten h.distinct rfl
  | loadDefinition name report => exact .of_forgotten faithful rfl
  | applySnapshot ticket requestId snapshot =>
    rw [Session.perform, Publishing.value_map]
    exact h.applySnapshot faithful
  | markFailedFrontier snapshot =>
    rw [Session.perform, Publishing.value_map]
    unfold markFailedFrontier
    split
    · exact h
    · refine ⟨Graph.forall_mem_mapNodes.mpr fun n hn => ?_, fun live => absurd live faithful⟩
      dsimp only
      split
      · exact Graph.Node.nodup_keys_setStatus (h.distinct n hn) .failed none
      · exact h.distinct n hn
  | completeApproval requestId approved =>
    rcases s.approvals.waits_or_absent requestId with ⟨r, waiting, rfl⟩ | absent
    · rw [perform_completeApproval_of_waiting approved waiting]
      exact h.freed (graph_answered waiting) rfl rfl rfl
    · rw [perform_completeApproval_of_absent approved absent]
      exact h
  | clearInstance =>
    cases watched : s.requestId with
    | none =>
      unfold Session.perform clearInstance
      rw [watched]
      exact h
    | some requestId =>
      unfold Session.perform
      rw [clearInstance_of_watched watched]
      exact h.freed rfl rfl rfl rfl
  | editGraph change => exact faithful.elim

end Session

namespace Monitor

variable {σ : Type} {rt : AgentRuntime σ}

/-! ## What a monitor is told -/

/-- **The snapshots that polls hand in** in the course of an operation. -/
inductive HandsIn (rt : AgentRuntime σ) : Monitor × σ → Operation → Snapshot → Prop
  /-- A poll hands in that of the first live run. -/
  | tick {w : Monitor × σ} {first : ActiveInstance} {rest : List ActiveInstance}
      (watched : w.1.session.isPolling = true)
      (reported : (rt.fetchActive w.2).1 = .ok (first :: rest)) :
    HandsIn rt w .tick first.snapshot
  /-- Many polls hand in what the first one hands in. -/
  | runTick {w : Monitor × σ} {snapshot : Snapshot} (ticks : Nat)
      (first : HandsIn rt w .tick snapshot) : HandsIn rt w (.run (ticks + 1)) snapshot
  /-- Many polls hand in what the later ones hand in. -/
  | runRest {w : Monitor × σ} {snapshot : Snapshot} {ticks : Nat}
      (later : HandsIn rt (perform rt w .tick).value (.run ticks) snapshot) :
    HandsIn rt w (.run (ticks + 1)) snapshot

/-- **Definitions arrive as objects**: the runtime gives none with a node that has two
properties of one key. -/
def GivesDistinctKeys (rt : AgentRuntime σ) : Prop :=
  ∀ name s definition, (rt.fetchDefinition name s).1 = .ok definition →
    ∀ d ∈ definition.nodes, d.properties.keys.Nodup

theorem distinctKeys_report (m : Monitor) {definition : Definition}
    (distinct : ∀ d ∈ definition.nodes, d.properties.keys.Nodup) :
    (m.report definition).graph.DistinctKeys := by
  have built := Graph.distinctKeys_build m.registry distinct
  unfold report
  dsimp only
  split
  · exact Graph.forall_mem_mapNodes.mpr built
  · exact built

/-! ## What a monitor keeps -/

/-- Showing a definition that was fetched leaves the display truthful. -/
theorem ShowsFetched.faithful {m : Monitor} {op : Session.Operation}
    (distinct : GivesDistinctKeys rt) (h : ShowsFetched rt m op) (s : Session) :
    s.Faithful op := by
  obtain ⟨name, definition, t, fetched, rfl⟩ := h
  exact m.distinctKeys_report (distinct name t definition fetched)

/-- **A poll leaves the display truthful.** -/
theorem truthful_tick (distinct : GivesDistinctKeys rt) {w : Monitor × σ}
    (clean : ∀ snapshot, HandsIn rt w .tick snapshot → snapshot.Clean)
    (h : w.1.session.Truthful) : (tick rt w.1 w.2).value.1.1.session.Truthful := by
  have led : Leads (Polls rt w.1 w.2) w.1 _ (tick rt w.1 w.2).value.1.1 := ends_tick rt w.1 w.2
  refine led.keeps (fun op polls s truthful => truthful.perform ?_) h
  rcases polls with rfl | fetched | ⟨first, rest, watched, reported, rfl⟩
  · exact trivial
  · exact fetched.faithful distinct s
  · exact fun _ => clean first.snapshot (.tick watched reported)

theorem truthful_run (distinct : GivesDistinctKeys rt) (ticks : Nat) {w : Monitor × σ}
    (clean : ∀ snapshot, HandsIn rt w (.run ticks) snapshot → snapshot.Clean)
    (h : w.1.session.Truthful) : (run rt w.1 ticks w.2).value.1.session.Truthful := by
  induction ticks generalizing w with
  | zero =>
    show (w.1.session.perform .stopPolling).value.Truthful
    exact h.perform trivial
  | succ ticks ih =>
    have ticked := truthful_tick distinct (fun _ first => clean _ (.runTick ticks first)) h
    exact ih (fun _ later => clean _ (.runRest later)) ticked

/-- **Looking at a finished run** leaves the display truthful, since no live run is
looked at any more. -/
theorem truthful_loadHistoricalRun (distinct : GivesDistinctKeys rt) {m : Monitor} (runId : String)
    (s : σ) (h : m.session.Truthful) :
    (loadHistoricalRun rt m runId s).value.1.1.session.Truthful := by
  have led : ∃ more, _ ∧ Leads (Reviews rt m runId)
      { m with session := (m.session.loadHistorical runId).value } more
      (loadHistoricalRun rt m runId s).value.1.1 := ends_loadHistoricalRun rt m runId s
  obtain ⟨more, -, led⟩ := led
  have turned : (m.session.perform (.loadHistorical runId)).value.Truthful := h.perform trivial
  have mode : (m.session.loadHistorical runId).value.mode ≠ .live := by
    rw [Session.value_loadHistorical]
    exact nofun
  refine (led.keeps (P := fun s => s.Truthful ∧ s.mode ≠ .live) ?_ ⟨turned, mode⟩).1
  rintro op reviews s ⟨truthful, mode⟩
  have stays : op.beginsEpoch = false ∧ s.Faithful op := by
    rcases reviews with fetched | ⟨ticket, snapshot, rfl⟩ | ⟨snapshot, rfl⟩
    · have faithful := fetched.faithful distinct s
      obtain ⟨name, definition, t, -, rfl⟩ := fetched
      exact ⟨rfl, faithful⟩
    · exact ⟨rfl, fun live => absurd live mode⟩
    · exact ⟨rfl, mode⟩
  have same : (s.perform op).value.mode = s.mode :=
    congrArg FetchTicket.mode (Session.beginFetch_perform stays.1)
  exact ⟨truthful.perform stays.2, same ▸ mode⟩

/-- **Whatever a monitor is told, its display stays truthful.** -/
theorem truthful_perform (distinct : GivesDistinctKeys rt) {w : Monitor × σ} {op : Operation}
    (clean : ∀ snapshot, HandsIn rt w op snapshot → snapshot.Clean)
    (h : w.1.session.Truthful) : (perform rt w op).value.1.session.Truthful := by
  cases op with
  | start =>
    have led : Leads _ w.1 _ (perform rt w .start).value.1 := ends_start rt w.1 w.2
    refine led.keeps (fun op caused s truthful => truthful.perform ?_) h
    rcases caused with rfl | fetched
    · exact trivial
    · exact fetched.faithful distinct s
  | tick => exact truthful_tick distinct clean h
  | run ticks => exact truthful_run distinct ticks clean h
  | ensureDefinition name =>
    have led : Leads _ w.1 _ (perform rt w (.ensureDefinition name)).value.1 :=
      ends_ensureDefinition rt w.1 name w.2
    exact led.keeps (fun op fetched s truthful => truthful.perform (fetched.faithful distinct s)) h
  | loadHistoricalRun runId => exact truthful_loadHistoricalRun distinct runId w.2 h
  | stop | dispose | abandonTick | fetchHistory | submitApproval | save =>
    refine (perform_leads rt w _).keeps (fun op caused s truthful => truthful.perform ?_) h
    cases caused <;> exact trivial

/-- **In every run the display stays truthful.** -/
theorem truthful_performAll (distinct : GivesDistinctKeys rt) {w : Monitor × σ}
    {ops : List Operation}
    (clean : ∀ u op v snapshot, ops = u ++ op :: v →
      HandsIn rt (performAll rt w u).value op snapshot → snapshot.Clean)
    (h : w.1.session.Truthful) : (performAll rt w ops).value.1.session.Truthful := by
  have step : ∀ (w : Monitor × σ) (op : Operation),
      (∀ snapshot, HandsIn rt w op snapshot → snapshot.Clean) → w.1.session.Truthful →
      (perform rt w op).value.1.session.Truthful :=
    fun w op clean truthful => truthful_perform distinct clean truthful
  exact Publishing.foldlM_preserves step ops w (fun u op v split snapshot =>
    clean u op v snapshot split) h

/-- **A poll that takes a snapshot over shows it.** -/
theorem shows_tick (distinct : GivesDistinctKeys rt) {m : Monitor} {s : σ}
    {first : ActiveInstance} {rest : List ActiveInstance} {statusesChanged : Bool}
    {change : GateChange} (coherent : m.session.gateView.Coherent)
    (truthful : m.session.Truthful) (clean : first.snapshot.Clean)
    (reported : (rt.fetchActive s).1 = .ok (first :: rest))
    (applied : (tick rt m s).value.1.2 = .applied (.applied statusesChanged change)) :
    (tick rt m s).value.1.1.session.Shows first.snapshot.executedIds := by
  obtain ⟨watched, said, shown, fetched, value, taken⟩ := tick_of_taken reported applied
  -- definitions were shown before the snapshot was handed in, and they forget what was marked
  have truthful : shown.session.Truthful :=
    fetched.keeps (fun op h s truthful => truthful.perform (h.faithful distinct s)) truthful
  have live : shown.session.mode = .live := by
    have definitions : Leads ShowsDefinition m said shown :=
      fetched.of_fetched fun name report => ⟨name, report, rfl⟩
    obtain ⟨view, -⟩ := gates_of_definitions definitions
    exact (congrArg GateView.mode view).trans (Session.live_of_isPolling coherent watched)
  have inTime : ¬(m.session.beginFetch ≠ shown.session.beginFetch
      ∨ shown.session.state = .idle) := by
    intro stale
    rw [Session.applySnapshot_eq_discarded_iff.mpr stale] at taken
    cases taken
  rw [value]
  exact truthful.shows_applySnapshot live clean inTime

/-- **After every poll the display tells the truth.** Whatever a monitor was told
before, once a poll has taken the snapshot of the first live run over, a node is marked
as waiting if it is the one that waits, else as run if it has run, else not at all, and
an output is kept for it exactly if it has run. It does not matter whether this poll
marked any nodes. -/
theorem display_tells_the_truth (rt : AgentRuntime σ) (config : AppConfig) (s₀ : σ)
    (ops : List Operation) {m : Monitor} {s : σ} {first : ActiveInstance}
    {rest : List ActiveInstance} {statusesChanged : Bool} {change : GateChange}
    (distinct : GivesDistinctKeys rt)
    (clean : ∀ u op v snapshot, ops ++ [.tick] = u ++ op :: v →
      HandsIn rt (performAll rt (ofConfig config, s₀) u).value op snapshot → snapshot.Clean)
    (reached : (performAll rt (ofConfig config, s₀) ops).value = (m, s))
    (reported : (rt.fetchActive s).1 = .ok (first :: rest))
    (applied : (tick rt m s).value.1.2 = .applied (.applied statusesChanged change)) :
    let after := (tick rt m s).value.1.1.session
    ∀ n ∈ after.graph.nodes,
      n.status = (if after.approvals.outstanding.map ApprovalRequest.nodeId = some n.id then .gated
          else if n.id ∈ first.snapshot.executedIds then .executed else .plain)
        ∧ (n.lastOutput?.isSome = true ↔ n.id ∈ first.snapshot.executedIds) := by
  intro after
  have began : (ofConfig config).session.Truthful := .of_forgotten nofun rfl
  have before : ∀ u op v snapshot, ops = u ++ op :: v →
      HandsIn rt (performAll rt (ofConfig config, s₀) u).value op snapshot → snapshot.Clean :=
    fun u op v snapshot split => clean u op (v ++ [.tick]) snapshot (by rw [split]; simp)
  have truthful := truthful_performAll distinct before began
  have led := performAll_leads rt (ofConfig config, s₀) ops
  rw [reached] at truthful led
  have coherent : m.session.gateView.Coherent :=
    led.keeps (P := fun s => s.gateView.Coherent) (fun op _ s h => h.turn (s.perform_turn op))
      (Session.coherent_initial config.sync.gateType)
  have cleanFirst : first.snapshot.Clean := by
    have watched := (tick_of_taken reported applied).1
    refine clean ops .tick [] first.snapshot rfl ?_
    rw [reached]
    exact .tick watched reported
  have shows := shows_tick distinct coherent truthful cleanFirst reported applied
  exact fun n hn => ⟨shows.statuses n hn, shows.outputs n hn⟩

end Monitor

/-! ## The smallest display of a gate -/

/-- A runtime that always answers as another one does at one moment. -/
def AgentRuntime.frozen {σ : Type} (rt : AgentRuntime σ) (s : σ) : AgentRuntime Unit where
  fetchDefinition name _ := ((rt.fetchDefinition name s).1, ())
  fetchActive _ := ((rt.fetchActive s).1, ())
  fetchHistory limit _ := ((rt.fetchHistory limit s).1, ())
  fetchRun runId _ := ((rt.fetchRun runId s).1, ())
  saveDefinition name definition _ := ((rt.saveDefinition name definition s).1, ())
  approveGate requestId _ := ((rt.approveGate requestId s).1, ())

namespace Monitor

/-- A gate that is alone is shown at the place where layouts begin. -/
theorem report_singleGate {m : Monitor} (registry : m.registry = Registry.ofConfig {})
    (distances : m.layout = {}) :
    let built := Graph.build (Registry.ofConfig {}) .singleGate
    m.report .singleGate
      = { built with graph := built.graph.applyLayout (.ofRanks {} [("gate", 0)]) } := by
  intro built
  let node := built.graph.nodes.head (by decide +kernel)
  have id : node.id = "gate" := by decide +kernel
  have laid : built.graph.layout {} = .ok (.ofRanks {} [("gate", 0)]) := by
    unfold Graph.layout
    rw [Graph.ranks_of_alone (n := node) rfl rfl, id]
  have laid : (Graph.build m.registry .singleGate).graph.layout m.layout
      = .ok (.ofRanks {} [("gate", 0)]) := by
    rw [registry, distances]
    exact laid
  rw [report_of_layout laid, registry]

/-- The first poll of a run that is at a gate shows the gate, and that it has run. -/
theorem display_tells_the_truth_at_gate :
    let rt := InMemory.runtime.frozen .atGate
    let w := (performAll rt (ofConfig {}, ()) [.start]).value
    (tick rt w.1 w.2).value.1.2 = .applied (.applied true .requested)
      ∧ ∃ n ∈ (tick rt w.1 w.2).value.1.1.session.graph.nodes,
        n.id = "gate" ∧ n.status = .gated ∧ n.lastOutput?.isSome := by
  intro rt w
  have polled := tick_of_fetched rt (m := w.1) (s := w.2) rfl rfl rfl (by decide +kernel) rfl
  rw [report_singleGate rfl rfl] at polled
  have applied : (tick rt w.1 w.2).value.1.2 = .applied (.applied true .requested) := by
    rw [polled]
    decide +kernel
  have ids : (tick rt w.1 w.2).value.1.1.session.graph.ids = ["gate"] := by
    rw [polled]
    decide +kernel
  have waits : (tick rt w.1 w.2).value.1.1.session.approvals.outstanding.map
      ApprovalRequest.nodeId = some "gate" := by
    rw [polled]
    decide +kernel
  have distinct : GivesDistinctKeys rt := by
    intro name s definition fetched
    change ([("loop", Definition.singleGate)].lookup name).elim
      (.error (InMemory.notFound name)) .ok = Except.ok definition at fetched
    rw [List.lookup_cons] at fetched
    split at fetched
    · obtain rfl := Except.ok.inj fetched
      decide
    · cases fetched
  have clean {w op snapshot} (h : HandsIn rt w op snapshot) : snapshot.Clean := by
    induction h with
    | tick watched reported =>
      obtain ⟨rfl, -⟩ := List.cons.inj (Except.ok.inj reported)
      unfold Snapshot.Clean
      decide
    | runTick _ _ ih => exact ih
    | runRest _ ih => exact ih
  have gate : "gate" ∈ (tick rt w.1 w.2).value.1.1.session.graph.ids := by
    rw [ids]
    exact List.mem_singleton_self "gate"
  obtain ⟨n, hn, id⟩ := List.mem_map.mp gate
  have shows : ∀ n ∈ (tick rt w.1 w.2).value.1.1.session.graph.nodes, _ ∧ _ :=
    display_tells_the_truth rt {} () [.start] (m := w.1) (s := w.2) distinct
      (fun _ _ _ _ _ h => clean h) rfl rfl applied
  obtain ⟨status, output⟩ := shows n hn
  refine ⟨applied, n, hn, id, ?_, output.mpr ?_⟩
  · rw [status, if_pos (by rw [waits, id])]
  · rw [id]
    decide

end Monitor

end AgentWorkflow
