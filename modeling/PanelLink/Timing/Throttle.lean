/-
This file holds the throttle on a stream of items. Each time it is asked for an item
it first takes everything the source has ready and keeps only the newest item. The
newest item is given out with the next tick; without an item no tick is used up. When
the source has finished, the item still waiting is given out before the throttle
finishes too, and the source is not asked again.
-/

import PanelLink.Timing.Ticker

namespace PanelLink.Timing

/-- What a source of items answers when it is asked for the next one. -/
inductive Answer (Item : Type) where
  | item (value : Item)
  | pending
  | finished
  deriving DecidableEq, Repr

/-- A throttle: its ticker, the item waiting for a tick, and whether the source has finished. -/
structure Throttle (Item : Type) where
  ticker : Ticker
  waiting : Option Item := none
  ended : Bool := false
  deriving DecidableEq, Repr

variable {Item : Type}

/-- The item of an answer, if it is one. -/
def Answer.item? : Answer Item → Option Item
  | item value => some value
  | pending | finished => none

namespace Throttle

/-- A throttle made at a moment. -/
def start (period now : Nat) : Throttle Item :=
  { ticker := Ticker.start period now }

/-- Takes the coming answers of a source up to the first that is no item; returns the rest. -/
def take (throttle : Throttle Item) : List (Answer Item) → Throttle Item × List (Answer Item)
  | [] => (throttle, [])
  | .item value :: rest => take { throttle with waiting := some value } rest
  | .pending :: rest => (throttle, rest)
  | .finished :: rest => ({ throttle with ended := true }, rest)

/-- Takes everything a source has ready, unless it has finished. -/
def drain (throttle : Throttle Item) (source : List (Answer Item)) :
    Throttle Item × List (Answer Item) :=
  if throttle.ended then (throttle, source) else throttle.take source

variable [Timer]

/-- Gives out the waiting item if there is one and its tick is granted. -/
def emit (throttle : Throttle Item) (now : Nat) : Throttle Item × Answer Item :=
  match throttle.waiting with
  | none => (throttle, if throttle.ended then .finished else .pending)
  | some value =>
    match throttle.ticker.tick? now with
    | some ticker => ({ throttle with ticker, waiting := none }, .item value)
    | none => (throttle, .pending)

/-- Asks for the next item; returns what the source has not been asked for yet as well. -/
def poll (throttle : Throttle Item) (now : Nat) (source : List (Answer Item)) :
    Throttle Item × Answer Item × List (Answer Item) :=
  let (drained, rest) := throttle.drain source
  let (next, answer) := drained.emit now
  (next, answer, rest)

/-- The moment the waiting item can be given out, if there is one. -/
def wakeAt? (throttle : Throttle Item) : Option Nat :=
  throttle.waiting.map fun _ => throttle.ticker.grantedFrom

/-- Asks for the next item and, if only time stands in its way, waits for it; gives the moment. -/
def next (throttle : Throttle Item) (now : Nat) (source : List (Answer Item)) :
    Nat × Throttle Item × Answer Item × List (Answer Item) :=
  match throttle.poll now source with
  | (asked, .pending, rest) =>
    let later := max now (asked.wakeAt?.getD now)
    (later, asked.poll later rest)
  | polled => (now, polled)

end Throttle

end PanelLink.Timing
