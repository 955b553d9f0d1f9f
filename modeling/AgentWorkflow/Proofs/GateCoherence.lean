import AgentWorkflow.Proofs.GateView

/-!
# State, run and approval agree

A session keeps in several places what is one fact: that a gate waits. Its
state says so, its approvals name the gate, and the run the gate belongs to is
the run that is watched. Nothing compares these places when it runs, and some
operations rely on their agreement without looking: one that finds no run
watched returns at once, which is right only because no gate waits then.

**Not an equivalence.** A session that stops watching keeps the gate that
waits, so a gate may wait while the state says that nothing is watched. What
holds is `GateView.Coherent`: standing at a gate means that one waits, watching
without standing at one means that none does, and a gate that waits is one of
the watched live run and was not answered.

Every turn keeps the view coherent (`GateView.Coherent.turn`), so every session
that operations lead to is.
-/

namespace AgentWorkflow

namespace GateView

/-- **What the parts of a view say about the gate that waits agrees.** -/
structure Coherent (v : GateView) : Prop where
  /-- A session that stands at a gate has one. -/
  waits : v.state = .gateActive → v.approvals.outstanding.isSome
  /-- A session that watches without standing at a gate, or shows nothing, has
  none. -/
  none_waits : v.state = .polling ∨ v.state = .idle → v.approvals.outstanding = none
  /-- The gate that waits is one of the live run that is watched, and nobody has
  answered it. -/
  of_waiting : ∀ r, v.approvals.outstanding = some r →
    v.mode = .live ∧ v.requestId = some r.requestId ∧ r.gate ∉ v.approvals.resolved
  /-- What is watched is live. -/
  live : v.state = .polling → v.mode = .live

namespace Coherent

variable {v v' : GateView} {op : Session.Operation} {said : List Event}

theorem resumed_ne_gateActive (v : GateView) : v.resumed ≠ .gateActive := by
  unfold resumed
  split
  · decide
  · assumption

/-- A view in which no gate waits is coherent if its state does not stand at
one and what is watched is live. -/
theorem of_none (none : v.approvals.outstanding = none) (state : v.state ≠ .gateActive)
    (live : v.state = .polling → v.mode = .live) : v.Coherent where
  waits h := absurd h state
  none_waits _ := none
  of_waiting r h := by rw [none] at h; cases h
  live := live

/-- A session that stands at a gate watches a live run. -/
theorem live_of_gateActive (h : v.Coherent) (gate : v.state = .gateActive) : v.mode = .live := by
  obtain ⟨r, hr⟩ := Option.isSome_iff_exists.mp (h.waits gate)
  exact (h.of_waiting r hr).1

theorem live_of_resumed (h : v.Coherent) (resumed : v.resumed = .polling) : v.mode = .live := by
  unfold GateView.resumed at resumed
  split at resumed
  · next gate => exact h.live_of_gateActive gate
  · exact h.live resumed

/-- **Every turn keeps a view coherent.** -/
theorem turn (h : v.Coherent) (t : Turn v op said v') : v'.Coherent := by
  cases t with
  | startPolling => exact of_none rfl nofun fun _ => rfl
  | stopPolling => exact ⟨nofun, nofun, h.of_waiting, nofun⟩
  | dispose => exact of_none rfl nofun fun _ => rfl
  | loadHistorical => exact of_none rfl nofun nofun
  | loadDefinition => exact h
  | markFailedFrontier => exact h
  | editGraph => exact h
  | stale => exact h
  | review _ _ _ mode =>
    -- nothing waits in a finished run, so it does not matter that the run changes
    exact ⟨h.waits, h.none_waits, fun r hr => absurd (h.of_waiting r hr).1 mode, h.live⟩
  | wait _ _ _ r mode waiting same =>
    refine ⟨h.waits, h.none_waits, fun q hq => ?_, fun _ => mode⟩
    obtain rfl : r = q := Option.some.inj (waiting.symm.trans hq)
    exact ⟨mode, congrArg some same.symm, (h.of_waiting r waiting).2.2⟩
  | pass _ _ _ mode _ =>
    refine of_none rfl ?_ fun _ => mode
    dsimp only
    split
    · decide
    · next none => exact fun gate => none (h.waits gate)
  | raise _ _ _ r mode run _ fresh =>
    refine ⟨fun _ => rfl, nofun, fun q hq => ?_, nofun⟩
    obtain rfl : r = q := Option.some.inj hq
    exact ⟨mode, congrArg some run.symm, fresh⟩
  | refuse => exact h
  | answer => exact of_none rfl (resumed_ne_gateActive v) h.live_of_resumed
  | unwatched => exact h
  | gone => exact of_none rfl (resumed_ne_gateActive v) h.live_of_resumed

end Coherent

end GateView

namespace Session

theorem coherent_initial (gateType : String) : (initial gateType).gateView.Coherent :=
  .of_none rfl nofun nofun

theorem coherent_performAll {s : Session} (h : s.gateView.Coherent) (ops : List Operation) :
    (s.performAll ops).value.gateView.Coherent := by
  have step : ∀ op ∈ ops, ∀ s : Session, s.gateView.Coherent →
      (s.perform op).value.gateView.Coherent :=
    fun op _ s h => h.turn (s.perform_turn op)
  exact Publishing.foldlM_preserves_of_mem step h

/-- **State, run and approval agree in every session** that operations lead to.
Standing at a gate means that one waits. Polling or showing nothing means that
none does. A gate that waits is one of the watched live run and was not
answered. -/
theorem state_run_and_approval_agree (gateType : String) (ops : List Operation) :
    let s := ((initial gateType).performAll ops).value
    (s.state = .gateActive → ∃ r, s.approvals.outstanding = some r)
      ∧ (s.state = .polling ∨ s.state = .idle → s.approvals.outstanding = none)
      ∧ ∀ r, s.approvals.outstanding = some r →
          s.mode = .live ∧ s.requestId = some r.requestId
            ∧ s.approvals.isResolved r.requestId r.nodeId = false := by
  intro s
  have h : s.gateView.Coherent := coherent_performAll (coherent_initial gateType) ops
  refine ⟨fun gate => Option.isSome_iff_exists.mp (h.waits gate), h.none_waits, fun r hr => ?_⟩
  obtain ⟨live, watched, unanswered⟩ := h.of_waiting r hr
  exact ⟨live, watched, Bool.eq_false_iff.mpr fun answered =>
    unanswered ((Approvals.isResolved_iff ..).mp answered)⟩

/-- At a gate, the run it belongs to is the one that is watched. -/
theorem state_run_and_approval_agree_at_gate :
    let s := ((initial "GateNode").performAll toGate).value
    s.state = .gateActive ∧ ∃ r, s.approvals.outstanding = some r
      ∧ s.requestId = some r.requestId := by
  intro s
  have agree := state_run_and_approval_agree "GateNode" toGate
  have gate : s.state = .gateActive := rfl
  obtain ⟨r, waiting⟩ := agree.1 gate
  exact ⟨gate, r, waiting, (agree.2.2 r waiting).2.1⟩

end Session

end AgentWorkflow
