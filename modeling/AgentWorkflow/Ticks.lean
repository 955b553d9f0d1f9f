/-!
# Ticks

What makes the monitor look again. `Interval` ticks by the clock: the first
tick is due at once, and each one is due a period after the last. When a tick
comes late by more than a small tolerance, because looking took long, the
ticks after it move along instead of coming in a burst; a smaller delay is
caught up. `ManualTicks` ticks when somebody says so, and ends when nobody is
left who could.
-/

namespace AgentWorkflow

/-- Ticks by the clock. Times are in milliseconds. -/
structure Interval where
  /-- The time from one tick to the next. -/
  period : Nat
  /-- When the next tick is due. -/
  deadline : Nat

namespace Interval

/-- By how much a tick may be late without moving the ticks after it. -/
def tolerance : Nat := 5

/-- Ticks from a moment on. A period is at least one millisecond. -/
def start (period now : Nat) : Interval := ⟨max period 1, now⟩

/-- **Waits for the next tick** from a given moment on, and tells when it
comes. -/
def next (i : Interval) (now : Nat) : Nat × Interval :=
  let fired := max now i.deadline
  (fired,
    { i with
      deadline := if fired > i.deadline + tolerance then fired + i.period
        else i.deadline + i.period })

end Interval

/-- Ticks by hand. -/
structure ManualTicks where
  /-- Ticks that were fired and not yet waited for. -/
  queued : Nat := 0
  /-- How many triggers there are. -/
  triggers : Nat := 1
  /-- Whether anybody waits for ticks. -/
  listening : Bool := true

/-- What waiting for a tick by hand finds. -/
inductive ManualTick where
  /-- A tick. -/
  | tick
  /-- None so far. -/
  | pending
  /-- None, and there will be no more. -/
  | ended

namespace ManualTicks

/-- Fires a tick; tells whether anybody waits for it. Without a trigger nothing
is fired. -/
def fire (t : ManualTicks) : Option (Bool × ManualTicks) :=
  if t.triggers = 0 then none
  else some (t.listening, if t.listening then { t with queued := t.queued + 1 } else t)

/-- One more trigger, made from one that is there. -/
def cloneTrigger (t : ManualTicks) : ManualTicks :=
  if t.triggers = 0 then t else { t with triggers := t.triggers + 1 }

/-- One trigger less. -/
def dropTrigger (t : ManualTicks) : ManualTicks := { t with triggers := t.triggers - 1 }

/-- Nobody waits for ticks any more, and those queued are lost. -/
def stopListening (t : ManualTicks) : ManualTicks := { t with listening := false, queued := 0 }

/-- **What waiting finds**; nothing when nobody waits. -/
def next (t : ManualTicks) : Option (ManualTick × ManualTicks) :=
  if !t.listening then none
  else if t.queued > 0 then some (.tick, { t with queued := t.queued - 1 })
  else if t.triggers = 0 then some (.ended, t)
  else some (.pending, t)

end ManualTicks

end AgentWorkflow
