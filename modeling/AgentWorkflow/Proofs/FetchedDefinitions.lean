import AgentWorkflow.Proofs.AlikeRuntimes
import AgentWorkflow.Proofs.RetainedGraphs

/-!
# The definition that is shown is the one fetched last

A monitor does not ask for a definition that it shows already. It remembers the name
it asked for last beside the name that the session shows, and another one may be shown
in place of what was asked for. If the two names ever disagreed, a run would be shown
on the graph of another one, or a definition that could not be had would never be asked
for again.

**What was answered** is noted where it is answered: `AgentRuntime.noting` is a runtime
that answers like a given one and writes down every definition it was asked for. A
monitor cannot tell the two apart (`Monitor.performAll_noting`).

**What is kept.** The two names agree, and what is shown under a name is what the last
answer about that name said (`Monitor.KeepsTo`). A name that is shown is not asked for,
so no later answer about it can come. And a definition that cannot be had leaves things
as they are, or lets the default one be shown, under its own name.
-/

namespace AgentWorkflow

/-- Whether an event tells of a definition that is shown from now on. -/
def Event.loadsDefinition : Event → Bool
  | .definitionLoaded .. => true
  | _ => false

/-- A definition that was asked for, and what was answered. -/
structure Fetch where
  /-- The name of the definition. -/
  name : String
  /-- The definition, or why it cannot be had. -/
  answer : Except Error Definition

/-- **A runtime that notes the definitions it is asked for**, the earliest first. It
answers like the runtime it is made from. -/
def AgentRuntime.noting {σ : Type} (rt : AgentRuntime σ) : AgentRuntime (σ × List Fetch) where
  fetchDefinition name s :=
    ((rt.fetchDefinition name s.1).1, (rt.fetchDefinition name s.1).2,
      s.2 ++ [⟨name, (rt.fetchDefinition name s.1).1⟩])
  fetchActive s := ((rt.fetchActive s.1).1, (rt.fetchActive s.1).2, s.2)
  fetchHistory limit s := ((rt.fetchHistory limit s.1).1, (rt.fetchHistory limit s.1).2, s.2)
  fetchRun runId s := ((rt.fetchRun runId s.1).1, (rt.fetchRun runId s.1).2, s.2)
  saveDefinition name definition s :=
    ((rt.saveDefinition name definition s.1).1, (rt.saveDefinition name definition s.1).2, s.2)
  approveGate requestId s :=
    ((rt.approveGate requestId s.1).1, (rt.approveGate requestId s.1).2, s.2)

/-- **What was answered last** about a definition. -/
def lastAnswer? (log : List Fetch) (name : String) : Option (Except Error Definition) :=
  (log.reverse.find? fun f => f.name = name).map Fetch.answer

/-- The last answer is the last one if it is about the definition, else an earlier one. -/
theorem lastAnswer?_concat (log : List Fetch) (f : Fetch) (name : String) :
    lastAnswer? (log ++ [f]) name
      = if f.name = name then some f.answer else lastAnswer? log name := by
  unfold lastAnswer?
  rw [List.reverse_concat]
  split
  · next same => rw [List.find?_cons_of_pos (by simpa using same), Option.map_some]
  · next other => rw [List.find?_cons_of_neg (by simpa using other)]

theorem AgentRuntime.noted_of_noting {σ : Type} {rt : AgentRuntime σ} {name : String}
    {u t : σ × List Fetch} {answer : Except Error Definition}
    (answered : rt.noting.fetchDefinition name u = (answer, t)) :
    rt.fetchDefinition name u.1 = (answer, t.1) ∧ t.2 = u.2 ++ [⟨name, answer⟩] := by
  obtain ⟨rfl, rfl⟩ := Prod.ext_iff.mp answered
  exact ⟨rfl, rfl⟩

namespace Monitor

variable {σ : Type} (rt : AgentRuntime σ)

/-! ## Noting does not disturb -/

section Answers

variable {P : List Fetch → Prop}

/-- What is noted makes no difference to the answers, and what every answer about a definition
keeps is kept. -/
theorem noting_alike
    (keeps : ∀ log name s, P log → P (log ++ [⟨name, (rt.fetchDefinition name s).1⟩])) :
    rt.noting.Alike (fun (t : σ × List Fetch) s => t.1 = s ∧ P t.2) rt where
  definition name := by rintro ⟨s, log⟩ _ ⟨rfl, kept⟩; exact ⟨rfl, rfl, keeps log name s kept⟩
  active := by rintro ⟨_, _⟩ _ ⟨rfl, kept⟩; exact ⟨rfl, rfl, kept⟩
  history _ := by rintro ⟨_, _⟩ _ ⟨rfl, kept⟩; exact ⟨rfl, rfl, kept⟩
  run _ := by rintro ⟨_, _⟩ _ ⟨rfl, kept⟩; exact ⟨rfl, rfl, kept⟩
  save _ _ := by rintro ⟨_, _⟩ _ ⟨rfl, kept⟩; exact ⟨rfl, rfl, kept⟩

theorem approveGate_noting_alike (requestId : String) :
    AnsweredAlike (fun (t : σ × List Fetch) s => t.1 = s ∧ P t.2)
      (rt.noting.approveGate requestId) (rt.approveGate requestId) := by
  rintro ⟨_, _⟩ _ ⟨rfl, kept⟩
  exact ⟨rfl, rfl, kept⟩

end Answers

theorem noting_alike_noting (log : List Fetch) :
    rt.noting.Alike (fun (t u : σ × List Fetch) => t = (u.1, log ++ u.2)) rt.noting where
  definition name := by
    rintro _ u rfl
    exact ⟨rfl, Prod.ext rfl (List.append_assoc ..)⟩
  active := by rintro _ _ rfl; exact ⟨rfl, rfl⟩
  history _ := by rintro _ _ rfl; exact ⟨rfl, rfl⟩
  run _ := by rintro _ _ rfl; exact ⟨rfl, rfl⟩
  save _ _ := by rintro _ _ rfl; exact ⟨rfl, rfl⟩

/-- **The definitions that are asked for** in the course of a run. -/
def fetches (w : Monitor × σ) (ops : List Operation) : List Fetch :=
  (performAll rt.noting (w.1, w.2, []) ops).value.2.2

/-- **A run that is noted** takes the same states and says the same things as one that is
not, and what it asks for is noted after what was there. -/
theorem performAll_noting (w : Monitor × σ) (log : List Fetch) (ops : List Operation) :
    performAll rt.noting (w.1, w.2, log) ops
      = ⟨((performAll rt w ops).value.1, (performAll rt w ops).value.2, log ++ fetches rt w ops),
          (performAll rt w ops).events⟩ := by
  have gate' (requestId : String) :
      AnsweredAlike (fun (t u : σ × List Fetch) => t = (u.1, log ++ u.2))
        (rt.noting.approveGate requestId) (rt.noting.approveGate requestId) := by
    rintro _ _ rfl
    exact ⟨rfl, rfl⟩
  have alike := noting_alike rt (P := fun _ => True) fun _ _ _ _ => trivial
  have gate := approveGate_noting_alike rt (P := fun _ => True)
  obtain ⟨value, ⟨kept, -⟩, events⟩ :=
    alike_performAll alike gate w.1 (t := (w.2, log)) ⟨rfl, trivial⟩ ops
  obtain ⟨-, noted, -⟩ := alike_performAll (noting_alike_noting rt log) gate' w.1
    (t := (w.2, log)) (s := (w.2, [])) (by rw [List.append_nil]) ops
  refine Publishing.ext (Prod.ext value (Prod.ext kept ?_)) events
  exact (congrArg Prod.snd noted :)

theorem fetches_append (w : Monitor × σ) (ops more : List Operation) :
    fetches rt w (ops ++ more)
      = fetches rt w ops ++ fetches rt (performAll rt w ops).value more := by
  have first := performAll_noting rt w [] ops
  have rest := performAll_noting rt (performAll rt w ops).value (fetches rt w ops) more
  rw [List.nil_append] at first
  show (performAll rt.noting (w.1, w.2, []) (ops ++ more)).value.2.2 = _
  rw [value_performAll_append, first]
  exact congrArg (fun p => p.value.2.2) rest

theorem fetches_keeps {P : List Fetch → Prop} (none : P [])
    (keeps : ∀ log name s, P log → P (log ++ [⟨name, (rt.fetchDefinition name s).1⟩]))
    (w : Monitor × σ) (ops : List Operation) : P (fetches rt w ops) :=
  (alike_performAll (noting_alike rt keeps) (approveGate_noting_alike rt) w.1 (t := (w.2, []))
    (s := w.2) ⟨rfl, none⟩ ops).2.1.2

/-! ## What is kept -/

/-- **The monitor keeps to what it was answered.** The name it asked for last is the name
that is shown, and what is shown under it is what the last answer about it said. -/
structure KeepsTo (config : AppConfig) (m : Monitor) (log : List Fetch) : Prop where
  /-- The node types are those of the configuration. -/
  registry : m.registry = Registry.ofConfig config
  /-- The default definition is the configured one. -/
  sync : m.sync = config.sync
  /-- The name that was asked for is the one that is shown. -/
  requested : m.requested = m.session.definitionName
  /-- What is shown was the last answer. -/
  shown : ∀ name, m.session.definitionName = some name →
    ∃ definition, lastAnswer? log name = some (.ok definition)
      ∧ m.session.graph.Retains (Graph.build (Registry.ofConfig config) definition).graph

/-- A definition is shown as it is built, at some places on the canvas. -/
theorem retains_report (m : Monitor) (definition : Definition) :
    (m.report definition).graph.Retains (Graph.build m.registry definition).graph := by
  unfold report
  dsimp only
  split
  · exact .applyLayout _ _
  · exact .refl _

/-- **A name that is shown** need not be asked for, if it is the one that was asked for last. -/
theorem cached_iff {m : Monitor} {name : String} (agree : m.requested = m.session.definitionName) :
    m.Cached name ↔ m.session.definitionName = some name := by
  unfold Cached
  rw [agree]
  exact and_iff_left_of_imp fun shown => Option.isSome_of_eq_some shown

namespace KeepsTo

variable {rt} {config : AppConfig} {m : Monitor} {log : List Fetch}

theorem ofConfig (config : AppConfig) : KeepsTo config (.ofConfig config) [] :=
  ⟨rfl, rfl, rfl, nofun⟩

theorem noted (h : KeepsTo config m log) (degraded : Bool) :
    KeepsTo config { m with degraded } log :=
  ⟨h.registry, h.sync, h.requested, h.shown⟩

/-- **What is done to the session** makes none, unless it changes which graph is shown. -/
theorem perform (h : KeepsTo config m log) (op : Session.Operation)
    (kept : op.replacesGraph = false) :
    KeepsTo config { m with session := (m.session.perform op).value } log := by
  obtain ⟨name, retains⟩ := m.session.perform_retains kept
  refine ⟨h.registry, h.sync, h.requested.trans name.symm, fun other shown => ?_⟩
  obtain ⟨definition, answer, before⟩ := h.shown other (name.symm.trans shown)
  exact ⟨definition, answer, retains.trans before⟩

theorem dispose (h : KeepsTo config m log) : KeepsTo config m.dispose.value log := by
  have forgotten : m.session.dispose.value.definitionName = none := by
    unfold Session.dispose
    rw [Session.value_transition]
  refine ⟨h.registry, h.sync, forgotten.symm, fun name shown => ?_⟩
  cases forgotten.symm.trans shown

theorem answered (h : KeepsTo config m log) {f : Fetch}
    (absent : m.session.definitionName ≠ some f.name) : KeepsTo config m (log ++ [f]) := by
  refine ⟨h.registry, h.sync, h.requested, fun name shown => ?_⟩
  have other : f.name ≠ name := fun same => absent (same ▸ shown)
  rw [lastAnswer?_concat, if_neg other]
  exact h.shown name shown

/-- **A definition that was fetched is shown** as it was answered. -/
theorem display (h : KeepsTo config m log) (name : String) (definition : Definition) :
    KeepsTo config (m.display name definition).value (log ++ [⟨name, .ok definition⟩]) := by
  refine ⟨h.registry, h.sync, rfl, fun other shown => ?_⟩
  obtain rfl : name = other := Option.some.inj shown
  refine ⟨definition, by rw [lastAnswer?_concat, if_pos rfl], ?_⟩
  rw [← h.registry]
  exact m.retains_report definition

/-! ## Operations -/

/-- **Making sure that a definition is shown.** -/
theorem ends_ensureDefinition (rt : AgentRuntime σ) (h : KeepsTo config m log) (name : String)
    (s : σ) :
    (ensureDefinition rt.noting m name).Ends (s, log) fun r t _ => KeepsTo config r.1 t.2 := by
  have ensured := ensures rt.noting m name (s, log)
  show KeepsTo config (ensureDefinition rt.noting m name (s, log)).value.1.1
    (ensureDefinition rt.noting m name (s, log)).value.2.2
  generalize ensureDefinition rt.noting m name (s, log) = result at ensured ⊢
  have failed {e : Error} (absent : ¬m.Cached name) :
      KeepsTo config m (log ++ [⟨name, .error e⟩]) :=
    h.answered fun shown => absent ((cached_iff h.requested).mpr shown)
  cases ensured with
  | cached => exact h
  | fetched _ answer =>
    obtain ⟨-, noted⟩ := AgentRuntime.noted_of_noting answer
    show KeepsTo config (m.display name _).value _
    rw [noted]
    exact h.display name _
  | lost absent answer =>
    obtain ⟨-, noted⟩ := AgentRuntime.noted_of_noting answer
    rw [Publishing.value_pure, noted]
    exact failed absent
  | kept absent answer =>
    obtain ⟨-, noted⟩ := AgentRuntime.noted_of_noting answer
    rw [Publishing.value_pure, noted]
    exact failed absent
  | replaced absent answer _ _ fallback =>
    obtain ⟨-, noted⟩ := AgentRuntime.noted_of_noting answer
    obtain ⟨-, noted'⟩ := AgentRuntime.noted_of_noting fallback
    show KeepsTo config (m.display m.sync.defaultWorkflow _).value _
    rw [noted', noted]
    exact (failed absent).display m.sync.defaultWorkflow _
  | neither absent answer _ hidden fallback =>
    obtain ⟨-, noted⟩ := AgentRuntime.noted_of_noting answer
    obtain ⟨-, noted'⟩ := AgentRuntime.noted_of_noting fallback
    rw [Publishing.value_pure, noted', noted]
    exact (failed absent).answered hidden

theorem ends_start (rt : AgentRuntime σ) (h : KeepsTo config m log) (s : σ) :
    (start rt.noting m).Ends (s, log) fun m' t _ => KeepsTo config m' t.2 := by
  unfold start
  simp only [Asking.ends_bind, Asking.ends_lift]
  refine ((h.perform .startPolling rfl).ends_ensureDefinition rt _ s).mono fun r t _ kept => ?_
  split
  · exact kept
  · rw [Asking.ends_lift, value_degrade]
    exact kept.noted true

theorem ends_tick (rt : AgentRuntime σ) (h : KeepsTo config m log) (s : σ) :
    (tick rt.noting m).Ends (s, log) fun r t _ => KeepsTo config r.1 t.2 := by
  unfold tick
  split
  · exact h
  simp only [Asking.ends_bind, Asking.ends_ask]
  split
  · simp only [Asking.ends_bind, Asking.ends_lift, Asking.ends_pure, value_degrade]
    exact h.noted true
  next active reported =>
  simp only [Asking.ends_bind, Asking.ends_lift, value_restore]
  split
  · simp only [Asking.ends_bind, Asking.ends_lift, Asking.ends_pure]
    exact (h.noted false).perform .clearInstance rfl
  next first rest =>
  rw [Asking.ends_bind]
  refine ((h.noted false).ends_ensureDefinition rt _ _).mono fun r t _ kept => ?_
  split
  · simp only [Asking.ends_bind, Asking.ends_lift, Asking.ends_pure, value_degrade]
    exact kept.noted true
  · simp only [Asking.ends_bind, Asking.ends_lift, Asking.ends_pure]
    exact kept.perform (.applySnapshot _ first.requestId first.snapshot) rfl

theorem ends_abandonTick (rt : AgentRuntime σ) (h : KeepsTo config m log) (s : σ) :
    (abandonTick rt.noting m).Ends (s, log) fun m' t _ => KeepsTo config m' t.2 := by
  unfold abandonTick
  split
  · exact h
  simp only [Asking.ends_bind, Asking.ends_ask]
  split
  · rw [Asking.ends_lift, value_degrade]
    exact h.noted true
  · rw [Asking.ends_lift, value_restore]
    exact h.noted false

theorem ends_run (rt : AgentRuntime σ) (ticks : Nat) (h : KeepsTo config m log) (s : σ) :
    (run rt.noting m ticks).Ends (s, log) fun m' t _ => KeepsTo config m' t.2 := by
  induction ticks generalizing m s log with
  | zero => exact h.perform .stopPolling rfl
  | succ n ih =>
    unfold run
    rw [Asking.ends_bind]
    exact (h.ends_tick rt s).mono fun r t _ kept => ih kept t.1

theorem ends_loadHistoricalRun (rt : AgentRuntime σ) (h : KeepsTo config m log) (runId : String)
    (s : σ) : (loadHistoricalRun rt.noting m runId).Ends (s, log) fun r t _ =>
      KeepsTo config r.1 t.2 := by
  have turned := h.perform (.loadHistorical runId) rfl
  unfold loadHistoricalRun
  simp only [Asking.ends_bind, Asking.ends_lift, Asking.ends_ask]
  split
  · exact turned
  next finished _ =>
  rw [Asking.ends_bind]
  refine (turned.ends_ensureDefinition rt _ _).mono fun ⟨m', result⟩ t _ kept => ?_
  cases result with
  | error e => exact kept
  | ok _ =>
    have taken := kept.perform (.applySnapshot (m.session.loadHistorical runId).value.beginFetch
      runId finished.finalState) rfl
    simp only [Asking.ends_bind, Asking.ends_lift]
    split
    · simp only [Asking.ends_bind, Asking.ends_lift, Asking.ends_pure]
      exact taken.perform (.markFailedFrontier finished.finalState) rfl
    · exact taken

theorem ends_submitApproval (rt : AgentRuntime σ) (h : KeepsTo config m log) (requestId : String)
    (approved : Bool) (s : σ) :
    (submitApproval rt.noting m requestId approved).Ends (s, log) fun r t _ =>
      KeepsTo config r.1 t.2 := by
  have recorded {r : ApprovalRequest} (waiting : m.session.approvals.outstanding = some r)
      (approved : Bool) : KeepsTo config { m with session := m.session.answered r } log := by
    have kept := h.perform (.completeApproval r.requestId approved) rfl
    rwa [Session.perform_completeApproval_of_waiting approved waiting] at kept
  unfold Asking.Ends
  rcases submitApproval_cases rt.noting m requestId approved (s, log) with
    ⟨-, absent⟩ | ⟨r, waiting, rfl, ⟨rfl, denied⟩ | ⟨e, rfl, -, refused⟩ | ⟨a, rfl, -, granted⟩⟩
  · rw [absent]
    exact h
  · rw [denied]
    exact recorded waiting false
  · rw [refused]
    exact h
  · rw [granted]
    exact recorded waiting true

/-- **Every operation keeps to what was answered.** -/
theorem ends_obey (rt : AgentRuntime σ) (h : KeepsTo config m log) (op : Operation) (s : σ) :
    (obey rt.noting m op).Ends (s, log) fun m' t _ => KeepsTo config m' t.2 := by
  cases op with
  | start => exact h.ends_start rt s
  | stop => exact h.perform .stopPolling rfl
  | dispose => exact h.dispose
  | tick => exact h.ends_tick rt s
  | abandonTick => exact h.ends_abandonTick rt s
  | run ticks => exact ends_run rt ticks h s
  | ensureDefinition name => exact h.ends_ensureDefinition rt name s
  | loadHistoricalRun runId => exact h.ends_loadHistoricalRun rt runId s
  | fetchHistory => exact h
  | submitApproval requestId approved => exact h.ends_submitApproval rt requestId approved s
  | save name =>
    unfold obey save
    rw [Asking.ends_map]
    split <;> exact h

/-- **Every run keeps to what was answered.** -/
theorem performAll (rt : AgentRuntime σ) (h : KeepsTo config m log) (s : σ)
    (ops : List Operation) :
    KeepsTo config (performAll rt (m, s) ops).value.1 (log ++ fetches rt (m, s) ops) := by
  have kept : KeepsTo config (Monitor.performAll rt.noting (m, s, log) ops).value.1
      (Monitor.performAll rt.noting (m, s, log) ops).value.2.2 :=
    Publishing.foldlM_preserves_of_mem (f := Monitor.perform rt.noting)
      (P := fun w => KeepsTo config w.1 w.2.2) (fun op _ w h => h.ends_obey rt op w.2.1) h
  rwa [performAll_noting rt (m, s) log ops] at kept

end KeepsTo

/-! ## What is asked for -/

variable {m : Monitor} {name : String} {s : σ}

/-- **What making sure of a definition asks for**: nothing if it is shown, else the definition,
and the default one after it if neither that nor the default one can be shown. -/
theorem fetches_ensureDefinition (agree : m.requested = m.session.definitionName) (name : String)
    (s : σ) :
    let first := rt.fetchDefinition name s
    let fallback := m.sync.defaultWorkflow
    fetches rt (m, s) [.ensureDefinition name]
      = if m.session.definitionName = some name then []
        else ⟨name, first.1⟩
          :: if first.1.isOk ∨ name = fallback ∨ m.session.definitionName = some fallback then []
            else [⟨fallback, (rt.fetchDefinition fallback first.2).1⟩] := by
  intro first fallback
  show (ensureDefinition rt.noting m name (s, [])).value.2.2 = _
  have ensured := ensures rt.noting m name (s, [])
  generalize ensureDefinition rt.noting m name (s, []) = result at ensured ⊢
  cases ensured with
  | cached shown => simp [(cached_iff agree).mp shown]
  | fetched absent answer =>
    obtain ⟨answered, noted⟩ := AgentRuntime.noted_of_noting answer
    have absent := mt (cached_iff agree).mpr absent
    simp [first, answered, noted, absent, Except.isOk, Except.toBool]
  | lost absent answer last =>
    obtain ⟨answered, noted⟩ := AgentRuntime.noted_of_noting answer
    have absent := mt (cached_iff agree).mpr absent
    simp [first, answered, noted, absent, fallback, ← last]
  | kept absent answer other shown =>
    obtain ⟨answered, noted⟩ := AgentRuntime.noted_of_noting answer
    simp [first, answered, noted, fallback, shown, other.symm]
  | replaced absent answer other hidden fetched =>
    obtain ⟨answered, noted⟩ := AgentRuntime.noted_of_noting answer
    obtain ⟨answered', noted'⟩ := AgentRuntime.noted_of_noting fetched
    have absent := mt (cached_iff agree).mpr absent
    simp [first, answered, noted, answered', noted', absent, Except.isOk, Except.toBool, fallback,
      other, hidden]
  | neither absent answer other hidden fetched =>
    obtain ⟨answered, noted⟩ := AgentRuntime.noted_of_noting answer
    obtain ⟨answered', noted'⟩ := AgentRuntime.noted_of_noting fetched
    have absent := mt (cached_iff agree).mpr absent
    simp [first, answered, noted, answered', noted', absent, Except.isOk, Except.toBool, fallback,
      other, hidden]

/-- What was fetched is shown under its name, and the operator is told once. -/
theorem display_shows (m : Monitor) (name : String) (definition : Definition) :
    (m.display name definition).value.session.definitionName = some name
      ∧ (m.display name definition).events.countP Event.loadsDefinition = 1 :=
  ⟨rfl, rfl⟩

/-- **What comes of making sure**, in terms of what was asked for. -/
theorem ensureDefinition_of_agree (agree : m.requested = m.session.definitionName) (name : String)
    (s : σ) :
    let called := ensureDefinition rt m name s
    let asked := fetches rt (m, s) [.ensureDefinition name]
    let shown := m.session.definitionName
    let fallback := m.sync.defaultWorkflow
    (shown = some name → called = pure ((m, .ok false), s))
      ∧ called.value.2 = asked.foldl (fun t f => (rt.fetchDefinition f.name t).2) s
      ∧ (called.value.1.2.isOk ↔ shown = some name ∨ shown = some fallback
          ∨ ∃ f ∈ asked, f.answer.isOk)
      ∧ (∀ changed, called.value.1.2 = .ok changed →
          called.value.1.1.session.definitionName
              = some (if shown = some name ∨ (rt.fetchDefinition name s).1.isOk then name
                else fallback)
            ∧ called.events.countP Event.loadsDefinition = if changed then 1 else 0)
      ∧ ∀ e, called.value.1.2 = .error e → called.value.1.1 = m ∧ called.events = [] := by
  intro called asked shown fallback
  have noted : asked = _ := fetches_ensureDefinition rt agree name s
  rw [noted]
  have ensured : Ensures rt m name s called := ensures rt m name s
  generalize called = result at ensured ⊢
  cases ensured with
  | cached here =>
    have here := (cached_iff agree).mp here
    simp [shown, here, Except.isOk, Except.toBool]
  | fetched absent answer =>
    have absent := mt (cached_iff agree).mpr absent
    simp [shown, absent, answer, Except.isOk, Except.toBool, display_shows]
  | lost absent answer last =>
    have absent := mt (cached_iff agree).mpr absent
    simp [shown, absent, answer, Except.isOk, Except.toBool, fallback, ← last]
  | kept absent answer other here =>
    simp [shown, answer, Except.isOk, Except.toBool, fallback, here, other.symm]
  | replaced absent answer other hidden fetched =>
    have absent := mt (cached_iff agree).mpr absent
    simp [shown, absent, answer, fetched, Except.isOk, Except.toBool, fallback, other, hidden,
      display_shows]
  | neither absent answer other hidden fetched =>
    have absent := mt (cached_iff agree).mpr absent
    simp [shown, absent, answer, fetched, Except.isOk, Except.toBool, fallback, other, hidden]

/-- **What is shown is what was answered last**, and making sure that a definition is shown
asks for no more than it must. In every state that operations lead to, the name that was
asked for last is the one that is shown, and the graph that is shown has the nodes, the
edges and the written properties of the definition that was last answered for that name.

Nothing is asked for what is shown. Anything else is asked for once, and the default
definition after it if neither of the two can be shown. Of what comes of it the operator is
told exactly if another graph is shown, and a failure changes nothing. What could not be
had the last time is asked for again the next time. -/
theorem shown_definition_is_the_last_answer (rt : AgentRuntime σ) (config : AppConfig) (s₀ : σ)
    (ops : List Operation) :
    let w := (performAll rt (ofConfig config, s₀) ops).value
    let log := fetches rt (ofConfig config, s₀) ops
    let shown := w.1.session.definitionName
    let fallback := config.sync.defaultWorkflow
    w.1.requested = shown
      ∧ (∀ name, shown = some name → ∃ definition,
          let built := (Graph.build (Registry.ofConfig config) definition).graph
          lastAnswer? log name = some (.ok definition)
            ∧ w.1.session.graph.ids = built.ids ∧ w.1.session.graph.edges = built.edges
            ∧ ∀ n ∈ w.1.session.graph.nodes, ∃ m ∈ built.nodes,
                n.id = m.id ∧ n.persisted.Perm m.persisted)
      ∧ ∀ name,
          let called := ensureDefinition rt w.1 name w.2
          let asked := fetches rt w [.ensureDefinition name]
          let first := rt.fetchDefinition name w.2
          (shown = some name → called = pure ((w.1, .ok false), w.2))
            ∧ asked = (if shown = some name then []
                else ⟨name, first.1⟩
                  :: if first.1.isOk ∨ name = fallback ∨ shown = some fallback then []
                    else [⟨fallback, (rt.fetchDefinition fallback first.2).1⟩])
            ∧ called.value.2 = asked.foldl (fun s f => (rt.fetchDefinition f.name s).2) w.2
            ∧ (called.value.1.2.isOk ↔ shown = some name ∨ shown = some fallback
                ∨ ∃ f ∈ asked, f.answer.isOk)
            ∧ (∀ changed, called.value.1.2 = .ok changed →
                called.value.1.1.session.definitionName
                    = some (if shown = some name ∨ first.1.isOk then name else fallback)
                  ∧ called.events.countP Event.loadsDefinition = if changed then 1 else 0)
            ∧ (∀ e, called.value.1.2 = .error e → called.value.1.1 = w.1 ∧ called.events = [])
            ∧ ∀ e, lastAnswer? log name = some (.error e) →
                ∃ rest, asked = ⟨name, first.1⟩ :: rest := by
  intro w log shown fallback
  have kept : KeepsTo config w.1 log := (KeepsTo.ofConfig config).performAll rt s₀ ops
  have sync : w.1.sync.defaultWorkflow = fallback := congrArg SyncConfig.defaultWorkflow kept.sync
  refine ⟨kept.requested, fun name here => ?_, fun name => ?_⟩
  · obtain ⟨definition, answer, retains⟩ := kept.shown name here
    refine ⟨definition, answer, retains.ids_eq, retains.edges_eq, fun n hn => ?_⟩
    obtain ⟨m, hm, same⟩ := retains.nodes n hn
    exact ⟨m, hm, (congrArg Graph.Node.id same.silent :), same.authored⟩
  · intro called asked first
    have noted := fetches_ensureDefinition rt kept.requested name w.2
    have outcome := ensureDefinition_of_agree rt kept.requested name w.2
    rw [sync] at noted outcome
    obtain ⟨cached, calls, had, told, failed⟩ := outcome
    refine ⟨cached, noted, calls, had, told, failed, fun e lost => ?_⟩
    -- what is shown was had the last time it was asked for
    have absent : shown ≠ some name := fun here => by
      obtain ⟨definition, answer, -⟩ := kept.shown name here
      cases lost.symm.trans answer
    exact ⟨_, noted.trans (if_neg absent)⟩

end Monitor

end AgentWorkflow
