/-
This file turns what is drawn into strokes: writes of one value to one place of the
pixel buffer, in the order they are made. Strokes are made only for pixels on the
panel. A pixel is 0 when it is dark and 255 when it is lit.
-/

import PanelLink.Command.Mode
import PanelLink.Display.Font
import PanelLink.Display.Geometry

namespace PanelLink

/-- One write to the pixel buffer. -/
structure Stroke where
  index : Nat
  value : UInt8
  deriving DecidableEq, Repr

namespace Stroke

/-- The value of a pixel. -/
def shade (lit : Bool) : UInt8 :=
  if lit then 255 else 0

/-- Makes strokes on a buffer, one after the other. -/
def paint (pixels : Array UInt8) (strokes : List Stroke) : Array UInt8 :=
  strokes.foldl (fun painted stroke => painted.setIfInBounds stroke.index stroke.value) pixels

/-- The stroke for one pixel, unless it is off the panel. -/
def at? (geometry : Geometry) (x y : Nat) (lit : Bool) : Option Stroke :=
  (geometry.index? x y).map fun index => ⟨index, shade lit⟩

/-! ### Text -/

/-- The one-byte code of a character; characters past U+00FF have none. -/
def code? (character : Char) : Option UInt8 :=
  if character.toNat < 256 then some (UInt8.ofNat character.toNat) else none

/-- Whether a pixel of a cell is part of the character in it. -/
def inGlyph (character : Char) (x y : Nat) : Bool :=
  match code? character with
  | some code => Font.isSet code x y
  | none => false

/-- Whether a pixel of a cell is lit; the inverse mode complements the whole cell. -/
def inCell (mode : TextMode) (character : Char) (x y : Nat) : Bool :=
  match mode with
  | .normal => inGlyph character x y
  | .inverse => !inGlyph character x y

/-- The strokes of one character, line by line. -/
def ofCell (geometry : Geometry) (mode : TextMode) (row column : UInt16) (character : Char) :
    List Stroke :=
  (List.range cellHeight).flatMap fun y =>
    (List.range cellWidth).filterMap fun x =>
      at? geometry (column.toNat * cellWidth + x) (row.toNat * cellHeight + y)
        (inCell mode character x y)

/-- The column after a given one; the last column is followed by itself. -/
def nextColumn (column : UInt16) : UInt16 :=
  if column = 65535 then column else column + 1

/-- The column after a text. -/
def columnAfter (column : UInt16) (text : List Char) : UInt16 :=
  text.foldl (fun reached _ => nextColumn reached) column

/-- The strokes of a text, from left to right. -/
def ofText (geometry : Geometry) (mode : TextMode) (row : UInt16) :
    UInt16 → List Char → List Stroke
  | _, [] => []
  | column, character :: rest =>
    ofCell geometry mode row column character ++
      ofText geometry mode row (nextColumn column) rest

/-! ### Raw columns -/

/-- The strokes of one column byte, from the top down. -/
def ofColumn (geometry : Geometry) (x top : Nat) (byte : UInt8) : List Stroke :=
  (List.range cellHeight).filterMap fun y => at? geometry x (top + y) (Font.bit byte y)

/-- The strokes of column bytes that stand side by side. -/
def ofColumns (geometry : Geometry) (top : Nat) : Nat → List UInt8 → List Stroke
  | _, [] => []
  | x, byte :: rest => ofColumn geometry x top byte ++ ofColumns geometry top (x + 1) rest

/-! ### Blanking -/

/-- The strokes that blank a run of the buffer. -/
def blankRun (start length : Nat) : List Stroke :=
  (List.range length).map fun offset => ⟨start + offset, 0⟩

/-- The strokes that blank one row of cells, as far as it is on the panel. -/
def blankRow (geometry : Geometry) (row : UInt16) : List Stroke :=
  let top := min (row.toNat * cellHeight) geometry.height
  let bottom := min (top + cellHeight) geometry.height
  blankRun (top * geometry.width) ((bottom - top) * geometry.width)

/-- The strokes that blank the whole panel. -/
def blankAll (geometry : Geometry) : List Stroke :=
  blankRun 0 geometry.pixelCount

end Stroke

end PanelLink
