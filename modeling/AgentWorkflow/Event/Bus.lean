/-!
# The event bus

A bus with any number of receivers, each of which gets every event sent after
it subscribed. The bus keeps a bounded number of events. A receiver that falls
behind by more than that has missed some; it is told once how many, and goes on
with the oldest one kept.

Events are numbered in the order in which they were sent, so a receiver is no
more than the number of the event it wants next.
-/

namespace AgentWorkflow

/-- A bus for events of one type. -/
structure Bus (α : Type) where
  /-- How many events are kept. -/
  capacity : Nat
  /-- How many events were sent. -/
  sent : Nat := 0
  /-- The latest events, oldest first, at most as many as are kept. -/
  kept : List α := []

/-- A receiver, by the number of the event it wants next. -/
structure Receiver where
  /-- The number of that event. -/
  next : Nat

/-- What a receiver gets. -/
inductive Received (α : Type) where
  /-- An event. -/
  | event (e : α)
  /-- Nothing yet. -/
  | empty
  /-- The news that events were missed, and how many. -/
  | lagged (missed : Nat)

namespace Bus

variable {α : Type}

/-- The smallest power of two that is at least `n`. -/
def powerAbove (n : Nat) : Nat :=
  if n ≤ 1 then 1 else Nat.pow 2 (Nat.log2 (n - 1) + 1)

/-- An empty bus. Room for events comes in powers of two. -/
def ofCapacity (n : Nat) : Bus α := { capacity := powerAbove n }

/-- Sends an event; if the bus is full it forgets the oldest one. -/
def send (b : Bus α) (e : α) : Bus α :=
  { b with
    sent := b.sent + 1
    kept := (b.kept ++ [e]).drop (b.kept.length + 1 - b.capacity) }

/-- A receiver of everything sent from now on. -/
def subscribe (b : Bus α) : Receiver := ⟨b.sent⟩

/-- The number of the oldest event kept. -/
def oldest (b : Bus α) : Nat := b.sent - b.kept.length

/-- **What a receiver gets next**, and the receiver afterwards. -/
def receive (b : Bus α) (r : Receiver) : Received α × Receiver :=
  if r.next < b.oldest then (.lagged (b.oldest - r.next), ⟨b.oldest⟩)
  else
    match b.kept[r.next - b.oldest]? with
    | some e => (.event e, ⟨r.next + 1⟩)
    | none => (.empty, r)

end Bus

end AgentWorkflow
