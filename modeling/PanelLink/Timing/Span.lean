/-
This file holds the text of a span of time: the largest unit that leaves a whole part,
from seconds down to nanoseconds, and after a point what is below that unit, without
zeros at the end.
-/

import PanelLink.Text.Radix

namespace PanelLink.Timing.Span

/-- The units and their lengths in nanoseconds, from the longest to the shortest. -/
def units : List (String × Nat) :=
  [("s", 1000000000), ("ms", 1000000), ("µs", 1000), ("ns", 1)]

/-- The number of decimal places below a unit. -/
def places (unit : Nat) : Nat :=
  (Radix.digits 10 unit).length - 1

/-- The digits after the point, with the point, or nothing if they are all zero. -/
def fraction (unit rest : Nat) : List Char :=
  let digits := (Radix.padded (places unit) 10 rest).reverse.dropWhile (· == '0')
  if rest = 0 then [] else '.' :: digits.reverse

/-- A span in one unit. -/
def inUnit (name : String) (unit span : Nat) : String :=
  Radix.decimal (span / unit) ++ String.ofList (fraction unit (span % unit)) ++ name

/-- A span of nanoseconds in words. -/
def text (span : Nat) : String :=
  match units.find? fun entry => entry.2 ≤ span with
  | some (name, unit) => inUnit name unit span
  | none => inUnit "ns" 1 span

end PanelLink.Timing.Span
