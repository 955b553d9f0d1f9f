import AgentWorkflow.Proofs.MonitorRuns

/-!
# Runtimes that answer alike

A monitor sees of a runtime only what it answers. So two runtimes may be made of
different things, and as long as they give the same answers a monitor takes the
same states beside either of them and says the same things.

**How answers stay the same.** What a runtime is made of changes with every
question, so a relation between what the two are made of has to be kept by every
question, besides telling that the answers are the same
(`AgentRuntime.Alike`). A computation keeps the relation if the questions it asks
do (`Asking.Alike`), and it has the same value and says the same.

This is how something is put beside a runtime without anybody noticing: a record
of what it was asked, for example, or something that is known about all of its
states.

**Releasing gates is stated apart.** Only an answer to a gate asks for it, so
what is done to the relation there is no concern of any other operation.
-/

namespace AgentWorkflow

variable {σ τ : Type}

/-- **Two questions are answered alike**, and what the runtimes are made of stays
related. -/
def AnsweredAlike {α : Type} (R : τ → σ → Prop) (question' : τ → α × τ) (question : σ → α × σ) :
    Prop :=
  ∀ t s, R t s → (question' t).1 = (question s).1 ∧ R (question' t).2 (question s).2

/-- **Two runtimes answer alike** whatever they are asked, but for the release of
gates. -/
structure AgentRuntime.Alike (R : τ → σ → Prop) (rt' : AgentRuntime τ) (rt : AgentRuntime σ) :
    Prop where
  /-- They have the same definitions. -/
  definition (name : String) :
    AnsweredAlike R (rt'.fetchDefinition name) (rt.fetchDefinition name)
  /-- They report the same live runs. -/
  active : AnsweredAlike R rt'.fetchActive rt.fetchActive
  /-- They keep the same history. -/
  history (limit : Nat) : AnsweredAlike R (rt'.fetchHistory limit) (rt.fetchHistory limit)
  /-- They keep the same finished runs. -/
  run (runId : String) : AnsweredAlike R (rt'.fetchRun runId) (rt.fetchRun runId)
  /-- They store the same definitions. -/
  save (name : String) (definition : Definition) :
    AnsweredAlike R (rt'.saveDefinition name definition) (rt.saveDefinition name definition)

namespace Asking

variable {α β : Type} {R : τ → σ → Prop}

/-- **Two computations come to the same**, each beside its own runtime. -/
def Alike (R : τ → σ → Prop) (x' : Asking τ α) (x : Asking σ α) : Prop :=
  ∀ t s, R t s → (x' t).value.1 = (x s).value.1 ∧ R (x' t).value.2 (x s).value.2
    ∧ (x' t).events = (x s).events

namespace Alike

theorem of_pure (a : α) : Alike R (pure a : Asking τ α) (pure a) := fun _ _ h => ⟨rfl, h, rfl⟩

theorem of_lift (p : Publishing α) : Alike R (liftM p : Asking τ α) (liftM p) :=
  fun _ _ h => ⟨rfl, h, rfl⟩

theorem of_ask {question' : τ → α × τ} {question : σ → α × σ}
    (same : AnsweredAlike R question' question) : Alike R (ask question') (ask question) :=
  fun t s h => ⟨(same t s h).1, (same t s h).2, rfl⟩

theorem bind {x' : Asking τ α} {x : Asking σ α} {next' : α → Asking τ β} {next : α → Asking σ β}
    (first : Alike R x' x) (second : ∀ a, Alike R (next' a) (next a)) :
    Alike R (x' >>= next') (x >>= next) := by
  intro t s h
  obtain ⟨value, kept, events⟩ := first t s h
  show (next' (x' t).value.1 (x' t).value.2).value.1 = (next (x s).value.1 (x s).value.2).value.1
    ∧ R (next' (x' t).value.1 (x' t).value.2).value.2 (next (x s).value.1 (x s).value.2).value.2
    ∧ (x' t).events ++ (next' (x' t).value.1 (x' t).value.2).events
      = (x s).events ++ (next (x s).value.1 (x s).value.2).events
  rw [value, events]
  obtain ⟨value', kept', events'⟩ := second (x s).value.1 _ _ kept
  exact ⟨value', kept', congrArg _ events'⟩

theorem map {x' : Asking τ α} {x : Asking σ α} (f : α → β) (h : Alike R x' x) :
    Alike R (f <$> x') (f <$> x) :=
  h.bind fun a => of_pure (f a)

end Alike

end Asking

namespace Monitor

open Asking (Alike)

variable {R : τ → σ → Prop} {rt' : AgentRuntime τ} {rt : AgentRuntime σ}

/-! ## Operations -/

theorem alike_ensureDefinition (same : rt'.Alike R rt) (m : Monitor) (name : String) :
    Alike R (ensureDefinition rt' m name) (ensureDefinition rt m name) := by
  have display (name : String) (definition : Definition) : Alike R
      (do return (← m.display name definition, (.ok true : Except Error Bool)) : Asking τ _)
      (do return (← m.display name definition, (.ok true : Except Error Bool)) : Asking σ _) :=
    (Alike.of_lift _).bind fun _ => .of_pure _
  unfold ensureDefinition
  simp only
  split
  · exact .of_pure _
  refine .bind (.of_ask (same.definition name)) fun fetched => ?_
  cases fetched with
  | ok definition => exact display name definition
  | error e =>
    dsimp only
    split
    · exact .of_pure _
    split
    · exact .of_pure _
    refine .bind (.of_ask (same.definition _)) fun fetched => ?_
    cases fetched with
    | ok definition => exact display _ definition
    | error e => exact .of_pure _

theorem alike_start (same : rt'.Alike R rt) (m : Monitor) :
    Alike R (start rt' m) (start rt m) := by
  unfold start
  refine (Alike.of_lift _).bind fun session => ?_
  refine (alike_ensureDefinition same _ _).bind fun ⟨m', result⟩ => ?_
  cases result with
  | ok _ => exact .of_pure m'
  | error e => exact .of_lift (m'.degrade e)

theorem alike_tick (same : rt'.Alike R rt) (m : Monitor) : Alike R (tick rt' m) (tick rt m) := by
  have failed (m : Monitor) (e : Error) : Alike R
      (do return (← m.degrade e, TickOutcome.degraded) : Asking τ _)
      (do return (← m.degrade e, TickOutcome.degraded) : Asking σ _) :=
    (Alike.of_lift _).bind fun _ => .of_pure _
  unfold tick
  split
  · exact .of_pure _
  refine .bind (.of_ask same.active) fun active => ?_
  cases active with
  | error e => exact failed m e
  | ok active =>
    refine (Alike.of_lift _).bind fun m => ?_
    cases active with
    | nil => exact (Alike.of_lift _).bind fun _ => .of_pure _
    | cons run _ =>
      refine (alike_ensureDefinition same _ _).bind fun ⟨m', result⟩ => ?_
      cases result with
      | error e => exact failed m' e
      | ok _ => exact (Alike.of_lift _).bind fun _ => .of_pure _

theorem alike_abandonTick (same : rt'.Alike R rt) (m : Monitor) :
    Alike R (abandonTick rt' m) (abandonTick rt m) := by
  unfold abandonTick
  split
  · exact .of_pure _
  refine .bind (.of_ask same.active) fun active => ?_
  cases active with
  | error e => exact .of_lift _
  | ok _ => exact .of_lift _

theorem alike_run (same : rt'.Alike R rt) (ticks : Nat) (m : Monitor) :
    Alike R (run rt' m ticks) (run rt m ticks) := by
  induction ticks generalizing m with
  | zero => exact .of_lift m.stop
  | succ n ih => exact (alike_tick same m).bind fun r => ih r.1

theorem alike_loadHistoricalRun (same : rt'.Alike R rt) (m : Monitor) (runId : String) :
    Alike R (loadHistoricalRun rt' m runId) (loadHistoricalRun rt m runId) := by
  unfold loadHistoricalRun
  refine (Alike.of_lift _).bind fun session => ?_
  refine .bind (.of_ask (same.run runId)) fun fetched => ?_
  cases fetched with
  | error e => exact .of_pure _
  | ok run =>
    refine (alike_ensureDefinition same _ _).bind fun ⟨m', result⟩ => ?_
    cases result with
    | error e => exact .of_pure _
    | ok _ =>
      refine (Alike.of_lift _).bind fun ⟨session, outcome⟩ => ?_
      dsimp only
      split
      · exact (Alike.of_lift _).bind fun _ => .of_pure _
      · exact .of_pure _

/-- Answering a gate comes to the same if its release is answered alike. -/
theorem alike_submitApproval {requestId : String}
    (gate : AnsweredAlike R (rt'.approveGate requestId) (rt.approveGate requestId)) (m : Monitor)
    (approved : Bool) :
    Alike R (submitApproval rt' m requestId approved) (submitApproval rt m requestId approved) := by
  unfold submitApproval
  split
  · exact .of_pure _
  split
  · refine .bind (.of_ask gate) fun answer => ?_
    cases answer with
    | error e => exact .of_pure _
    | ok acknowledgement => exact (Alike.of_lift _).bind fun _ => .of_pure _
  · exact (Alike.of_lift _).bind fun _ => .of_pure _

theorem alike_save (same : rt'.Alike R rt) (m : Monitor) (name : String) :
    Alike R (save rt' m name) (save rt m name) := by
  unfold save
  split
  · exact .of_pure _
  · exact .of_ask (same.save name _)

/-- **Every operation comes to the same**; for an answer, if the release of its gate is
answered alike. -/
theorem alike_obey (same : rt'.Alike R rt) (m : Monitor) {op : Operation}
    (gate : ∀ requestId approved, op = .submitApproval requestId approved →
      AnsweredAlike R (rt'.approveGate requestId) (rt.approveGate requestId)) :
    Alike R (obey rt' m op) (obey rt m op) := by
  cases op with
  | start => exact alike_start same m
  | stop => exact .of_lift m.stop
  | dispose => exact .of_lift m.dispose
  | tick => exact (alike_tick same m).map Prod.fst
  | abandonTick => exact alike_abandonTick same m
  | run ticks => exact alike_run same ticks m
  | ensureDefinition name => exact (alike_ensureDefinition same m name).map Prod.fst
  | loadHistoricalRun runId => exact (alike_loadHistoricalRun same m runId).map Prod.fst
  | fetchHistory =>
    have asked : Alike R (fetchHistory rt' m) (fetchHistory rt m) := .of_ask (same.history _)
    exact asked.map fun _ => m
  | submitApproval requestId approved =>
    exact (alike_submitApproval (gate _ _ rfl) m approved).map Prod.fst
  | save name => exact (alike_save same m name).map fun _ => m

/-- **A run takes the same states and says the same things** beside either runtime. -/
theorem alike_performAll (same : rt'.Alike R rt)
    (gate : ∀ requestId, AnsweredAlike R (rt'.approveGate requestId) (rt.approveGate requestId))
    (m : Monitor) {t : τ} {s : σ} (related : R t s) (ops : List Operation) :
    (performAll rt' (m, t) ops).value.1 = (performAll rt (m, s) ops).value.1
      ∧ R (performAll rt' (m, t) ops).value.2 (performAll rt (m, s) ops).value.2
      ∧ (performAll rt' (m, t) ops).events = (performAll rt (m, s) ops).events := by
  unfold performAll
  induction ops generalizing m t s with
  | nil => exact ⟨rfl, related, rfl⟩
  | cons op ops ih =>
    obtain ⟨value, kept, events⟩ : (perform rt' (m, t) op).value.1 = (perform rt (m, s) op).value.1
        ∧ R (perform rt' (m, t) op).value.2 (perform rt (m, s) op).value.2
        ∧ (perform rt' (m, t) op).events = (perform rt (m, s) op).events :=
      alike_obey same m (fun requestId _ _ => gate requestId) t s related
    obtain ⟨value', kept', events'⟩ := ih (perform rt (m, s) op).value.1 kept
    simp only [List.foldlM_cons, Publishing.value_bind, Publishing.events_bind]
    have begun : (perform rt' (m, t) op).value
        = ((perform rt (m, s) op).value.1, (perform rt' (m, t) op).value.2) :=
      Prod.ext value rfl
    rw [begun, events, events']
    exact ⟨value', kept', rfl⟩

end Monitor

end AgentWorkflow
