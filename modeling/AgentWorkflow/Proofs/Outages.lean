import AgentWorkflow.AgentRuntime.InMemory
import AgentWorkflow.Proofs.MonitorRuns

/-!
# How often an outage is announced

A monitor remembers whether it has announced that the runtime cannot be reached, so
that an outage which lasts for many polls is announced by the first of them only.
What it remembers is dropped as soon as the runtime tells which runs are live. That
is too early: the poll may still fail, because the definition of the first run cannot
be had, and then the same poll takes the outage back and announces it again.

So consecutive polls that fail keep quiet after the first one if and only if the
runtime answered none of the later ones (`Monitor.outage_is_announced_once_iff`). It
does not matter what the monitor went through before, nor which of the calls fails in
the first of the polls. While a runtime has lost all its definitions but still knows
its runs, every poll announces both that it can be reached and that it cannot
(`Monitor.outage_announced_again_without_definitions`).
-/

namespace AgentWorkflow

/-- Whether an event announces an outage. -/
def Event.announcesOutage : Event → Bool
  | .connectionDegraded _ => true
  | _ => false

namespace Monitor

variable {σ : Type}

/-- **What can be seen of one poll.** -/
structure Round where
  /-- What the poll found. -/
  outcome : TickOutcome
  /-- Whether the runtime would tell which runs are live. -/
  answered : Bool
  /-- What was said. -/
  said : List Event

/-- The poll that comes next. -/
def round (rt : AgentRuntime σ) (w : Monitor × σ) : Round where
  outcome := (tick rt w.1 w.2).value.1.2
  answered := (rt.fetchActive w.2).1.isOk
  said := (tick rt w.1 w.2).events

/-- **So many polls**, with nothing in between. -/
def rounds (rt : AgentRuntime σ) : Nat → Monitor × σ → List Round
  | 0, _ => []
  | ticks + 1, w => round rt w :: rounds rt ticks (perform rt w .tick).value

/-- How many times an outage is announced. -/
def announcements (rs : List Round) : Nat := (rs.flatMap Round.said).countP Event.announcesOutage

variable {rt : AgentRuntime σ} {m : Monitor} {s : σ} {w : Monitor × σ} {ticks : Nat}

/-! ## One poll that fails -/

theorem events_degrade (m : Monitor) (e : Error) :
    (m.degrade e).events = if m.degraded then [] else [.connectionDegraded e.message] := by
  unfold degrade
  split <;> rfl

theorem events_restore (m : Monitor) :
    m.restore.events = if m.degraded then [.connectionRestored] else [] := by
  unfold restore
  split <;> rfl

/-- **A definition that cannot be had** changes nothing, and nothing is said about
it. -/
theorem ensureDefinition_of_error (rt : AgentRuntime σ) (m : Monitor) (name : String) (s : σ) :
    (ensureDefinition rt m name).Ends s fun r _ said =>
      ∀ e, r.2 = .error e → r.1 = m ∧ said = [] := by
  have ensured := ensures rt m name s
  unfold Asking.Ends
  generalize ensureDefinition rt m name s = result at ensured ⊢
  cases ensured with
  | cached => exact nofun
  | fetched => exact nofun
  | lost => exact fun _ _ => ⟨rfl, rfl⟩
  | kept => exact nofun
  | replaced => exact nofun
  | neither => exact fun _ _ => ⟨rfl, rfl⟩

/-- What a poll says that fails: it takes an outage back if the runtime answered, and
then announces it unless that is done. -/
def failing (announced answered : Bool) (detail : String) : List Event :=
  match announced, answered with
  | true, true => [.connectionRestored, .connectionDegraded detail]
  | true, false => []
  | false, _ => [.connectionDegraded detail]

theorem countP_failing_le (announced answered : Bool) (detail : String) :
    (failing announced answered detail).countP Event.announcesOutage ≤ 1 := by
  unfold failing
  split <;> simp [Event.announcesOutage]

/-- **A poll that fails** touches nothing but the note of the outage. -/
theorem tick_of_degraded (failed : (tick rt m s).value.1.2 = .degraded) :
    (tick rt m s).value.1.1 = { m with degraded := true }
      ∧ ∃ detail, (tick rt m s).events
        = failing m.degraded (rt.fetchActive s).1.isOk detail := by
  suffices (tick rt m).Ends s fun r _ said => r.2 = .degraded → r.1 = { m with degraded := true }
      ∧ ∃ detail, said = failing m.degraded (rt.fetchActive s).1.isOk detail from this failed
  unfold tick
  split
  · exact nofun
  simp only [Asking.ends_bind, Asking.ends_ask, List.nil_append]
  cases reported : (rt.fetchActive s).1 with
  | error e =>
    simp only [Asking.ends_bind, Asking.ends_lift, Asking.ends_pure, value_degrade, List.append_nil]
    refine fun _ => ⟨trivial, e.message, ?_⟩
    rw [events_degrade]
    cases m.degraded <;> rfl
  | ok active =>
    simp only [Asking.ends_bind, Asking.ends_lift, value_restore]
    cases active with
    | nil =>
      simp only [Asking.ends_bind, Asking.ends_lift, Asking.ends_pure]
      exact nofun
    | cons first rest =>
      simp only [Asking.ends_bind]
      refine (ensureDefinition_of_error rt _ _ _).mono fun ⟨m', result⟩ t said unchanged => ?_
      cases result with
      | ok shown =>
        simp only [Asking.ends_bind, Asking.ends_lift, Asking.ends_pure]
        exact nofun
      | error e =>
        obtain ⟨rfl, rfl⟩ := unchanged e rfl
        simp only [Asking.ends_bind, Asking.ends_lift, Asking.ends_pure, value_degrade,
          List.append_nil, List.nil_append]
        refine fun _ => ⟨trivial, e.message, ?_⟩
        -- the outage was taken back a moment ago, so it counts as a new one
        rw [events_restore, events_degrade]
        cases m.degraded <;> rfl

/-- After a poll that fails an outage counts as announced. -/
theorem degraded_perform_tick (failed : (round rt w).outcome = .degraded) :
    (perform rt w .tick).value.1.degraded = true := by
  show ((Prod.fst <$> tick rt w.1) w.2).value.1.degraded = true
  rw [Asking.map_apply, (tick_of_degraded failed).1]

/-! ## Many polls that fail -/

theorem announcements_cons (r : Round) (rs : List Round) :
    announcements (r :: rs) = r.said.countP Event.announcesOutage + announcements rs := by
  unfold announcements
  rw [List.flatMap_cons, List.countP_append]

theorem announcements_of_silent {rs : List Round} (silent : ∀ r ∈ rs, r.said = []) :
    announcements rs = 0 := by
  unfold announcements
  rw [List.flatMap_eq_nil_iff.mpr silent]
  rfl

/-- **What polls say that fail after an outage was announced**: nothing, unless the
runtime answered. -/
theorem said_of_degraded (announced : w.1.degraded = true)
    (failed : ∀ r ∈ rounds rt ticks w, r.outcome = .degraded) :
    ∀ r ∈ rounds rt ticks w, if r.answered
      then ∃ detail, r.said = [.connectionRestored, .connectionDegraded detail]
      else r.said = [] := by
  induction ticks generalizing w with
  | zero => exact nofun
  | succ ticks ih =>
    obtain ⟨now, next⟩ := List.forall_mem_cons.mp failed
    refine List.forall_mem_cons.mpr ⟨?_, ih (degraded_perform_tick now) next⟩
    obtain ⟨-, detail, said⟩ := tick_of_degraded now
    rw [announced] at said
    change (round rt w).said = failing true (round rt w).answered detail at said
    rw [said]
    cases (round rt w).answered with
    | true => exact ⟨detail, rfl⟩
    | false => rfl

/-- **An outage is announced once if and only if the runtime answers no more while it
lasts.** Take polls that follow one another and all fail, whatever came before. The
first one announces the outage at most once. Each of the later ones says nothing if the
runtime did not tell which runs are live, and otherwise takes the outage back and
announces it again. -/
theorem outage_is_announced_once_iff (rt : AgentRuntime σ) (w : Monitor × σ) (ticks : Nat)
    (failed : ∀ r ∈ rounds rt ticks w, r.outcome = .degraded) :
    let all := rounds rt ticks w
    announcements (all.take 1) ≤ 1
      ∧ (∀ r ∈ all.tail, if r.answered
          then ∃ detail, r.said = [.connectionRestored, .connectionDegraded detail]
          else r.said = [])
      ∧ ((announcements all ≤ 1 ∧ ∀ r ∈ all.tail, ∀ e ∈ r.said, e.isConnection = false)
        ↔ ∀ r ∈ all.tail, r.answered = false) := by
  intro all
  cases ticks with
  | zero => exact ⟨Nat.zero_le 1, nofun, iff_of_true ⟨Nat.zero_le 1, nofun⟩ nofun⟩
  | succ ticks =>
    obtain ⟨now, next⟩ := List.forall_mem_cons.mp failed
    have first : (round rt w).said.countP Event.announcesOutage ≤ 1 := by
      obtain ⟨-, detail, said⟩ := tick_of_degraded now
      exact le_of_eq_of_le (congrArg _ said) (countP_failing_le _ _ detail)
    have later := said_of_degraded (degraded_perform_tick now) next
    refine ⟨?_, later, fun ⟨_, quiet⟩ r hr => ?_, fun unanswered => ?_⟩
    · show announcements [round rt w] ≤ 1
      rw [announcements_cons]
      exact first
    · refine Bool.eq_false_iff.mpr fun answered => ?_
      have said := later r hr
      rw [if_pos answered] at said
      obtain ⟨detail, said⟩ := said
      cases quiet r hr .connectionRestored (said ▸ List.mem_cons_self)
    · have silent : ∀ r ∈ all.tail, r.said = [] := by
        intro r hr
        have said := later r hr
        rwa [if_neg (Bool.eq_false_iff.mp (unanswered r hr))] at said
      refine ⟨?_, fun r hr e he => ?_⟩
      · show announcements (round rt w :: all.tail) ≤ 1
        rw [announcements_cons, announcements_of_silent silent]
        exact first
      · rw [silent r hr] at he
        cases he

end Monitor

/-- A runtime that is there for one poll, and then not for two. -/
def InMemory.leaving : InMemory where
  script := [.ok [], .error "connection refused", .error "connection refused"]

/-- A runtime with a run, and with no definition. -/
def InMemory.withoutDefinitions : InMemory where
  script := [.ok []]
  standing := [⟨"run", {}⟩]

namespace Monitor

/-- An outage of two polls, in which the runtime gives no answer, is announced once. -/
theorem outage_is_announced_once_while_unreachable :
    let w := (performAll InMemory.runtime (ofConfig {}, InMemory.leaving) [.start, .tick]).value
    let all := rounds InMemory.runtime 2 w
    (∀ r ∈ all, r.outcome = .degraded)
      ∧ all.map Round.said
        = [[.connectionDegraded (Error.transport "connection refused").message], []]
      ∧ announcements all ≤ 1 ∧ ∀ r ∈ all.tail, ∀ e ∈ r.said, e.isConnection = false := by
  intro w all
  have failed : ∀ r ∈ all, r.outcome = .degraded := by decide +kernel
  have unanswered : ∀ r ∈ all.tail, r.answered = false := by decide +kernel
  exact ⟨failed, rfl,
    (outage_is_announced_once_iff InMemory.runtime w 2 failed).2.2.mpr unanswered⟩

/-- **Without definitions every poll announces the outage again**, after it has taken
back that there is one. -/
theorem outage_announced_again_without_definitions :
    let w := (performAll InMemory.runtime (ofConfig {}, InMemory.withoutDefinitions)
      [.start, .tick]).value
    let missing := (InMemory.notFound "default_agent_loop.yaml").message
    let all := rounds InMemory.runtime 2 w
    (∀ r ∈ all, r.outcome = .degraded) ∧ announcements all = 2
      ∧ all.map Round.said
        = [[.connectionDegraded missing], [.connectionRestored, .connectionDegraded missing]] := by
  intro w missing all
  exact ⟨by decide +kernel, by decide +kernel, rfl⟩

end Monitor

end AgentWorkflow
