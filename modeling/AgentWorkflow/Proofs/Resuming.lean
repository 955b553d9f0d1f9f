import AgentWorkflow.Proofs.GateDetection
import AgentWorkflow.Proofs.Marks

/-!
# What makes a stopped session watch again

A session that has stopped watching is told so by the operator, and only the
operator should be able to make it watch again. Answers and the end of a run keep to
this: they lead on to polling only from a gate at which the session stands. A
snapshot does not look where the session stands. A ticket that was given out after
watching stopped is as good as any other, and if what the snapshot finds is not what
waits, the session goes on to polling or to a gate
(`Session.resumes_iff_finds_other`).

**What waits while nothing is watched.** A gate that waited goes on waiting after
watching stopped. So a snapshot has two ways to set the session going. It finds a
gate that does not wait, which is raised, or it no longer finds the one that does,
which is passed.
-/

namespace AgentWorkflow

namespace GateView

variable {v v' : GateView} {op : Session.Operation} {said : List Event}

/-- Who stands at no gate stays where it is when no gate waits any more. -/
theorem resumed_of_ne (away : v.state ≠ .gateActive) : v.resumed = v.state := if_neg away

/-- **Nothing but the operator and snapshots of live runs sets a view going** that does not
watch. -/
theorem Turn.rests_unless_live (t : Turn v op said v')
    (rests : v.state = .idle ∨ v.state = .stopped) (start : op ≠ .startPolling)
    (review : ∀ ticket requestId snapshot, op = .applySnapshot ticket requestId snapshot →
      v.mode ≠ .live) :
    (v'.state = .idle ∨ v'.state = .stopped) ∧ ∀ r, .approvalRequested r ∉ said := by
  have away : v.resumed = v.state := by
    refine resumed_of_ne fun gate => ?_
    rw [gate] at rests
    exact rests.elim nofun nofun
  cases t with
  | startPolling => exact absurd rfl start
  | stopPolling => exact ⟨Or.inr rfl, fun _ => List.not_mem_nil⟩
  | dispose => exact ⟨Or.inl rfl, fun _ => List.not_mem_nil⟩
  | loadHistorical => exact ⟨Or.inr rfl, v.approvals.requested_notMem_clear⟩
  | loadDefinition => exact ⟨rests, fun _ => List.not_mem_nil⟩
  | markFailedFrontier => exact ⟨rests, fun _ => List.not_mem_nil⟩
  | editGraph => exact ⟨rests, fun _ => List.not_mem_nil⟩
  | refuse => exact ⟨rests, fun _ => List.not_mem_nil⟩
  | unwatched => exact ⟨rests, fun _ => List.not_mem_nil⟩
  | answer => exact ⟨away ▸ rests, fun _ => by simp⟩
  | gone => exact ⟨away ▸ rests, v.approvals.requested_notMem_clear⟩
  | stale => exact ⟨rests, fun _ => List.not_mem_nil⟩
  | review => exact ⟨rests, fun _ => List.not_mem_nil⟩
  | wait _ _ _ _ mode => exact absurd mode (review _ _ _ rfl)
  | pass _ _ _ mode => exact absurd mode (review _ _ _ rfl)
  | raise _ _ _ _ mode => exact absurd mode (review _ _ _ rfl)

theorem Turn.rests (t : Turn v op said v') (rests : v.state = .idle ∨ v.state = .stopped)
    (start : op ≠ .startPolling)
    (other : ∀ ticket requestId snapshot, op ≠ .applySnapshot ticket requestId snapshot) :
    (v'.state = .idle ∨ v'.state = .stopped) ∧ ∀ r, .approvalRequested r ∉ said :=
  t.rests_unless_live rests start fun ticket requestId snapshot same =>
    absurd same (other ticket requestId snapshot)

end GateView

namespace Session

variable {s : Session} {requestId : String} {snapshot : Snapshot}

/-- A session that does not watch shows nothing or has stopped. -/
theorem isPolling_eq_false_iff : s.isPolling = false ↔ s.state = .idle ∨ s.state = .stopped := by
  unfold isPolling
  cases s.state <;> simp

/-! ## Marking leaves types alone -/

theorem sameTypes_recordAll (g : Graph) (outputs : Fields) : g.SameTypes (recordAll g outputs) := by
  induction outputs generalizing g with
  | nil => exact .refl g
  | cons output outputs ih =>
    have first : g.SameTypes (g.updateNode output.1 fun n => n.setStatus .executed output.2) :=
      g.sameTypes_updateNode output.1 fun _ => rfl
    exact first.trans (ih _)

theorem sameTypes_markExecuted (s : Session) (snapshot : Snapshot) :
    s.graph.SameTypes (s.markExecuted snapshot).graph := by
  have reset : s.graph.SameTypes s.graph.resetStatuses := s.graph.sameTypes_mapNodes fun _ => rfl
  have ran : s.graph.SameTypes (recordAll s.graph.resetStatuses snapshot.nodeOutputs) :=
    reset.trans (sameTypes_recordAll _ _)
  unfold markExecuted
  cases s.approvals.outstanding with
  | none => exact ran
  | some r => exact ran.trans (Graph.sameTypes_updateNode _ r.nodeId fun _ => rfl)

theorem sameTypes_marked (s : Session) (requestId : String) (snapshot : Snapshot) :
    s.graph.SameTypes (s.marked requestId snapshot).graph := by
  show s.graph.SameTypes (s.markedGraph requestId snapshot)
  unfold markedGraph
  split
  · exact .refl s.graph
  · exact s.sameTypes_markExecuted snapshot

/-! ## Snapshots -/

/-- **The snapshot finds the run where the session waits.** -/
def FindsWaiting (s : Session) (requestId : String) (snapshot : Snapshot) : Prop :=
  ∀ gate, s.WaitsAt gate ↔ s.Finds s.graph requestId snapshot gate

/-- The session has been set going. -/
def Resumed (s : Session) (said : List Event) : Prop :=
  s.isPolling = true ∨ ∃ r, .approvalRequested r ∈ said

/-- Who stays stopped and asks about nothing has not been set going. -/
theorem not_resumed {said : List Event} (rests : s.state = .idle ∨ s.state = .stopped)
    (silent : ∀ r, .approvalRequested r ∉ said) : ¬s.Resumed said := by
  rintro (watched | ⟨r, asked⟩)
  · rw [isPolling_eq_false_iff.mpr rests] at watched
    cases watched
  · exact silent r asked

/-- **Looking for gates sets a stopped session going** unless the snapshot finds what
waits. -/
theorem detectGate_resumes_iff (h : s.gateView.Coherent) (stopped : s.state = .stopped) :
    let gates := (s.marked requestId snapshot).detectGate requestId snapshot
    gates.value.1.Resumed gates.approvals ↔ ¬s.FindsWaiting requestId snapshot := by
  let m := s.marked requestId snapshot
  intro gates
  have types : s.graph.SameTypes m.graph := s.sameTypes_marked requestId snapshot
  rcases m.detectGate_cases requestId snapshot with
    ⟨answered, passed⟩ | ⟨nodeId, found, ⟨waiting, waits⟩ | ⟨other, fresh, raised⟩⟩
  · have nothing_found : ∀ gate, ¬s.Finds s.graph requestId snapshot gate := by
      intro gate here
      obtain ⟨requestId', nodeId⟩ := gate
      obtain ⟨rfl, found, fresh⟩ := (finds_marked_iff _).mp ((finds_congr types _).mpr here)
      exact fresh (answered nodeId found)
    have value : gates.value.1 = m.passed := by rw [← value_passGate, ← passed]
    have said : gates.approvals = s.approvals.clear.events :=
      (congrArg Publishing.approvals passed).trans (approvals_passGate m)
    rw [value, said]
    cases waits : s.approvals.outstanding with
    | none =>
      have finds : s.FindsWaiting requestId snapshot := fun gate => by
        refine iff_of_false (fun here => ?_) (nothing_found gate)
        unfold WaitsAt at here
        rw [waits] at here
        cases here
      have stays : m.passed.state = .stopped := by
        show (if s.approvals.outstanding.isSome then SessionState.polling else s.state) = _
        rw [waits, stopped]
        rfl
      exact iff_of_false (not_resumed (Or.inr stays) s.approvals.requested_notMem_clear)
        (not_not_intro finds)
    | some r =>
      have goes : m.passed.state = .polling := by
        show (if s.approvals.outstanding.isSome then SessionState.polling else s.state) = _
        rw [waits]
        rfl
      refine iff_of_true (Or.inl ?_) fun finds => nothing_found r.gate ((finds r.gate).mp ?_)
      · exact decide_eq_true (Or.inl goes)
      · exact congrArg (Option.map ApprovalRequest.gate) waits
  · have unchanged : gates = pure (m, .unchanged) := waits
    obtain ⟨r, hr, hgate⟩ := Option.map_eq_some_iff.mp waiting
    have fresh : (requestId, nodeId) ∉ s.approvals.resolved := hgate ▸ (h.of_waiting r hr).2.2
    have finds : s.FindsWaiting requestId snapshot := fun gate => by
      rw [← finds_congr types gate, ← eq_iff_finds_marked found fresh gate, ← waiting]
      exact Iff.rfl
    rw [unchanged]
    exact iff_of_false (not_resumed (Or.inr stopped) fun _ => List.not_mem_nil)
      (not_not_intro finds)
  · have goes : gates.value.1.state = .gateActive := congrArg (fun p => p.value.1.state) raised
    refine iff_of_true (Or.inl (decide_eq_true (Or.inr goes))) fun finds => other ?_
    refine (finds (requestId, nodeId)).mpr ((finds_congr types _).mp ?_)
    exact (eq_iff_finds_marked found fresh _).mp rfl

/-- **A snapshot sets a session going that does not watch** if its ticket is the
present one and it does not find what waits. -/
theorem applySnapshot_resumes_iff {ticket : FetchTicket} (h : s.gateView.Coherent)
    (rests : s.isPolling = false) :
    let taken := s.applySnapshot ticket requestId snapshot
    taken.value.1.Resumed taken.approvals
      ↔ ticket = s.beginFetch ∧ s.state = .stopped ∧ s.mode = .live
        ∧ ¬s.FindsWaiting requestId snapshot := by
  intro taken
  have rests := isPolling_eq_false_iff.mp rests
  by_cases stale : ticket ≠ s.beginFetch ∨ s.state = .idle
  · have discarded : taken = pure (s, .discarded) := applySnapshot_of_stale stale
    rw [discarded]
    refine iff_of_false (not_resumed rests fun _ => List.not_mem_nil) ?_
    rintro ⟨rfl, stopped, -⟩
    rw [stopped] at stale
    exact stale.elim (fun h => h rfl) nofun
  obtain ⟨rfl, shown⟩ := not_stale_iff.mp stale
  have stopped : s.state = .stopped := rests.resolve_left shown
  have silent := approvals_applyStatuses (s.watch requestId) requestId snapshot
  cases mode : s.mode with
  | live =>
    have applied : taken = _ := applySnapshot_of_live stale mode
    have said : taken.approvals
        = ((s.marked requestId snapshot).detectGate requestId snapshot).approvals := by
      rw [applied]
      unfold Publishing.approvals at silent ⊢
      rw [List.filter_append, silent, List.nil_append]
    rw [said, applied]
    refine (detectGate_resumes_iff h stopped).trans ?_
    exact ⟨fun other => ⟨rfl, stopped, rfl, other⟩, fun ⟨_, _, _, other⟩ => other⟩
  | historical runId =>
    have applied : taken = _ := applySnapshot_of_historical stale mode
    have said : taken.approvals = [] := by
      rw [applied]
      exact silent
    rw [said, applied]
    exact iff_of_false (not_resumed (Or.inr stopped) fun _ => List.not_mem_nil)
      fun ⟨_, _, live, _⟩ => nomatch live

/-- **Only starting to watch sets a session going, and snapshots that do not find what
waits.** A session that does not watch is not made to watch by anything else, and asks
about no gate. -/
theorem resumes_iff_finds_other (gateType : String) (ops : List Operation) {op : Operation}
    (other : op ≠ .startPolling) :
    let s := ((initial gateType).performAll ops).value
    s.isPolling = false →
    (((s.perform op).value.isPolling = true ∨ ∃ r, .approvalRequested r ∈ (s.perform op).events)
      ↔ ∃ ticket requestId snapshot, op = .applySnapshot ticket requestId snapshot
        ∧ ticket = s.beginFetch ∧ s.state = .stopped ∧ s.mode = .live
        ∧ ¬∀ gate, s.WaitsAt gate ↔ s.Finds s.graph requestId snapshot gate) := by
  intro s rests
  have coherent : s.gateView.Coherent := coherent_performAll (coherent_initial gateType) ops
  have said (r : ApprovalRequest) : .approvalRequested r ∈ (s.perform op).events
      ↔ .approvalRequested r ∈ (s.perform op).approvals :=
    (Publishing.mem_approvals.trans (and_iff_left rfl)).symm
  simp only [said]
  by_cases snap : ∃ ticket requestId snapshot, op = .applySnapshot ticket requestId snapshot
  · obtain ⟨ticket, requestId, snapshot, rfl⟩ := snap
    rw [perform, Publishing.approvals_map, Publishing.value_map]
    refine (applySnapshot_resumes_iff coherent rests).trans ⟨fun h => ?_, ?_⟩
    · exact ⟨ticket, requestId, snapshot, rfl, h⟩
    · rintro ⟨_, _, _, same, h⟩
      cases same
      exact h
  · have no_snapshot (ticket requestId snapshot) : op ≠ .applySnapshot ticket requestId snapshot :=
      fun same => snap ⟨ticket, requestId, snapshot, same⟩
    obtain ⟨still, silent⟩ :=
      (s.perform_turn op).rests (isPolling_eq_false_iff.mp rests) other no_snapshot
    refine iff_of_false (not_resumed still silent) ?_
    rintro ⟨ticket, requestId, snapshot, same, -⟩
    exact no_snapshot ticket requestId snapshot same

/-- A run that stops watching while a gate waits. -/
def toStoppedGate : List Operation := toGate ++ [.stopPolling]

/-- An answer is taken after watching has stopped, and does not begin it again. -/
theorem resumes_iff_finds_other_after_answer :
    let s := ((initial "GateNode").performAll toStoppedGate).value
    let op := Operation.completeApproval "run" true
    op ≠ .startPolling ∧ s.isPolling = false ∧ s.approvals.outstanding.isSome = true
      ∧ (s.perform op).value.approvals.outstanding = none
      ∧ (s.perform op).value.isPolling = false := by
  intro s op
  have start : op ≠ .startPolling := nofun
  have rests : s.isPolling = false := rfl
  have resumes := resumes_iff_finds_other "GateNode" toStoppedGate start rests
  refine ⟨start, rests, rfl, rfl, Bool.eq_false_iff.mpr fun watched => ?_⟩
  obtain ⟨ticket, requestId, snapshot, same, -⟩ := resumes.mp (Or.inl watched)
  exact absurd same nofun

/-- **A snapshot makes a stopped session watch again** and ask about a gate. -/
theorem stopped_session_resumed_by_snapshot :
    let s := ((initial "GateNode").performAll
      [.loadDefinition "loop" ⟨.singleGate, []⟩, .startPolling, .stopPolling]).value
    let op := Operation.applySnapshot s.beginFetch "run" .atGate
    s.isPolling = false ∧ (s.perform op).value.isPolling = true
      ∧ .approvalRequested ⟨"run", "gate", .null⟩ ∈ (s.perform op).events :=
  ⟨rfl, rfl, List.mem_cons_of_mem _ List.mem_cons_self⟩

end Session

end AgentWorkflow
