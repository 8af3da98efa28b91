/-
This file holds what a viewer of the panel gets: a copy of the picture with the
cursor and the number of orders received. Later changes of the panel do not reach
it.
-/

import PanelLink.Display.Geometry
import PanelLink.Pieces

namespace PanelLink

/-- The place of the cursor, counted in cells; it may lie off the panel. -/
structure Cursor where
  row : UInt16 := 0
  column : UInt16 := 0
  deriving DecidableEq, Repr

/-- The state of a panel at one moment. -/
structure Snapshot where
  geometry : Geometry
  pixels : Array UInt8
  cursor : Cursor
  received : Nat
  deriving DecidableEq, Repr

namespace Snapshot

/-- The snapshot of an untouched panel. -/
def blank (geometry : Geometry) : Snapshot :=
  ⟨geometry, Array.replicate geometry.pixelCount 0, {}, 0⟩

/-- The value of a pixel, or nothing for a place off the picture. -/
def pixel? (snapshot : Snapshot) (x y : Nat) : Option UInt8 :=
  (snapshot.geometry.index? x y).bind (snapshot.pixels[·]?)

/-- Whether every pixel is dark. -/
def isBlank (snapshot : Snapshot) : Bool :=
  snapshot.pixels.all (· == 0)

/-- The mark for one pixel. -/
def mark (value : UInt8) : Char :=
  if 128 ≤ value then '#' else '.'

/-- The picture as lines of marks, from the top down. -/
def lines (snapshot : Snapshot) : List (List Char) :=
  (pieces (max snapshot.geometry.width 1) snapshot.pixels.toList).map fun line => line.map mark

/-- The picture as text, with a line feed after every line. Every picture has a text here. Room for
the text is reserved first, and where sums are checked against words of 64 bits that cannot be done
if a line with its line feed has `2 ^ 64` letters or more, or the whole text `2 ^ 63` or more. -/
def toAscii (snapshot : Snapshot) : String :=
  String.ofList (snapshot.lines.flatMap fun line => line ++ ['\n'])

end Snapshot

end PanelLink
