/-
This file holds a value that changes and those who view it. A viewer sees the present
value first and after that the newest value whenever there was a change since the last
look, however many changes there were. A change not looked at yet is still seen after
the last one has been made. A viewer can be held back by a throttle.
-/

import PanelLink.Timing.Throttle

namespace PanelLink

open Timing

/-- A value that changes. -/
structure Latest (Item : Type) where
  value : Item
  /-- The number of changes so far. -/
  changes : Nat := 0
  closed : Bool := false
  deriving DecidableEq, Repr

/-- Someone who views a changing value. -/
structure Viewer (Item : Type) where
  /-- The number of changes up to the last look, if there was one. -/
  seen? : Option Nat := none
  throttle? : Option (Throttle Item) := none
  deriving DecidableEq, Repr

variable {Item : Type}

namespace Latest

/-- Changes the value. -/
def set (latest : Latest Item) (value : Item) : Latest Item :=
  { latest with value, changes := latest.changes + 1 }

/-- What a viewer gets who asks until there is nothing new. -/
def answers (latest : Latest Item) (seen? : Option Nat) : List (Answer Item) :=
  let last := if latest.closed then .finished else .pending
  if seen? = some latest.changes then [last] else [.item latest.value, last]

end Latest

namespace Viewer

/-- A viewer who sees at most one value in a period, if there is one. -/
def start (period? : Option Nat) (now : Nat) : Viewer Item :=
  { throttle? := period?.map fun period => Throttle.start period now }

/-- Looks at the value at a moment. -/
def look (viewer : Viewer Item) (latest : Latest Item) (now : Nat) : Viewer Item × Answer Item :=
  let answers := latest.answers viewer.seen?
  let seen? := some latest.changes
  match viewer.throttle? with
  | none => ({ viewer with seen? }, answers.headD .pending)
  | some throttle =>
    let (next, answer, _) := throttle.poll now answers
    ({ seen?, throttle? := some next }, answer)

/-- Looks at the value until there is nothing more to see at that moment. -/
def lookAll (viewer : Viewer Item) (latest : Latest Item) (now : Nat) :
    Viewer Item × List (Answer Item) :=
  match viewer.look latest now with
  | (first, .item value) =>
    let (second, answer) := first.look latest now
    (second, [.item value, answer])
  | (first, answer) => (first, [answer])

end Viewer

end PanelLink
