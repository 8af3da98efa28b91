/-
This file holds how often a viewer wants to see the panel: after every change, or at
most some number of times a second. At most zero times a second counts as no limit.
The pause between updates is the double nearest to the reciprocal of the limit, in
whole nanoseconds; it is zero for limits above two billion.
-/

import PanelLink.Data.Tree
import PanelLink.Rounding

namespace PanelLink.Timing

open Data

/-- How often a viewer is updated. -/
inductive Rate where
  /-- After every change. -/
  | native
  /-- At most so many times a second. -/
  | limited (hertz : UInt32)
  deriving DecidableEq, Repr

/-- A second in nanoseconds. -/
def second : Nat := 1000000000

namespace Rate

/-- The rate with its limit of zero read as no limit. -/
def normalized : Rate → Rate
  | limited hertz => if hertz = 0 then native else limited hertz
  | native => native

/-- The pause between updates, if there is a limit. -/
def pause? (rate : Rate) : Option Nat :=
  match rate.normalized with
  | native => none
  | limited hertz => some ((Rounding.reciprocal hertz.toNat).times second)

/-- Whether updates have to be held back. -/
def isLimited (rate : Rate) : Bool :=
  rate.normalized != native

/-! ### Data -/

/-- The rate of a data tree. -/
def read? : Tree → Option Rate
  | .record [("Max", limit)] => (below? UInt32.size limit).map fun hertz => limited hertz.toUInt32
  | tree => wordIn? [("Native", native)] tree

/-- The rate as a data tree. -/
def toTree : Rate → Tree
  | native => .text "Native"
  | limited hertz => .record [("Max", .natural hertz.toNat)]

end Rate

end PanelLink.Timing
