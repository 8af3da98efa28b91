/-
This file holds the channel that gives every item to every subscriber. It keeps a
limited number of the newest items; a subscriber that falls further behind is told how
many it missed and goes on with the oldest item kept. Once the channel is closed,
subscribers still get what is kept for them.
-/

import PanelLink.Rounding

namespace PanelLink

/-- A channel to many subscribers. -/
structure Broadcast (Item : Type) where
  capacity : Nat
  /-- The number of items published so far. -/
  published : Nat := 0
  /-- The newest items, the oldest of them first. -/
  kept : List Item := []
  closed : Bool := false
  deriving DecidableEq, Repr

/-- What a subscriber gets from a channel. -/
inductive Received (Item : Type) where
  | item (value : Item)
  /-- So many items were missed. -/
  | skipped (count : Nat)
  | pending
  | finished
  deriving DecidableEq, Repr

namespace Broadcast

variable {Item : Type}

/-- A channel that keeps at least the given number of items, rounded up to a power of two. -/
def ofCapacity (capacity : Nat) : Broadcast Item :=
  { capacity := Nat.pow 2 (Rounding.ceilingLog (max capacity 1)) }

/-- The number of the oldest item kept, counting from the first one published. -/
def oldest (channel : Broadcast Item) : Nat :=
  channel.published - channel.kept.length

/-- Gives an item to all subscribers. -/
def publish (channel : Broadcast Item) (item : Item) : Broadcast Item :=
  let kept := channel.kept ++ [item]
  { channel with
    published := channel.published + 1
    kept := kept.drop (kept.length - channel.capacity) }

/-- Gets the next item for a subscriber, who is known by the number of that item. -/
def receive (channel : Broadcast Item) (position : Nat) : Nat × Received Item :=
  if position < channel.oldest then
    (channel.oldest, .skipped (channel.oldest - position))
  else
    match channel.kept[position - channel.oldest]? with
    | some value => (position + 1, .item value)
    | none => (position, if channel.closed then .finished else .pending)

/-- Gets up to a number of items, as long as there are any. -/
def receiveUpTo (channel : Broadcast Item) : Nat → Nat → Nat × List (Received Item)
  | 0, position => (position, [])
  | count + 1, position =>
    let (next, received) := channel.receive position
    match received with
    | .pending | .finished => (next, [received])
    | .item _ | .skipped _ =>
      let (last, rest) := receiveUpTo channel count next
      (last, received :: rest)

/-- Gets everything there is for a subscriber, and whether there is more to come. -/
def receiveAll (channel : Broadcast Item) (position : Nat) : Nat × List (Received Item) :=
  channel.receiveUpTo (channel.kept.length + 2) position

end Broadcast

end PanelLink
