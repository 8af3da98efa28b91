/-
This file holds the simulated panel and everything that changes it. A panel keeps
its picture, the cursor, a count of the orders received since the last reset, and
whether it was changed since someone last asked. After every change it notifies
the listener installed at that moment, once and with the finished state.

Nothing that is drawn can fail: what lies off the panel is clipped. Only payloads
that the panel does not draw are refused, and those leave it untouched.
-/

import PanelLink.Command.Summary
import PanelLink.Display.Snapshot
import PanelLink.Display.Stroke
import PanelLink.Journal

namespace PanelLink

open Journal

/-! ### State -/

/-- A simulated panel. Listeners are known by name. -/
structure Panel where
  geometry : Geometry
  pixels : Array UInt8
  cursor : Cursor := {}
  /-- The number of changes since the last reset. A counter of 64 bits holds it as long as there are
  fewer than `2 ^ 64` of them. -/
  received : Nat := 0
  dirty : Bool := true
  resetOnClear : Bool := false
  listener : Option String := none
  deriving DecidableEq, Repr

/-- What a listener is told. -/
structure Notice where
  listener : String
  snapshot : Snapshot
  deriving DecidableEq, Repr

/-- A change of the panel itself. -/
inductive Change where
  /-- Write a text from a cell on; the cursor ends up behind it. -/
  | writeAt (text : List Char) (row column : UInt16) (mode : TextMode)
  /-- Write a text at the cursor. -/
  | write (text : List Char) (mode : TextMode)
  /-- Put raw pixel columns at the cursor, which stays. -/
  | columns (bytes : List UInt8)
  /-- Move the cursor along the axes given. -/
  | moveCursor (row column : Option UInt16)
  /-- Blank the picture; cursor and count stay. -/
  | clearAll
  /-- Blank one row of cells. -/
  | clearRow (row : UInt16)
  /-- Blank the picture, send the cursor home and start counting again. -/
  | reset
  deriving DecidableEq, Repr

namespace Panel

/-- A blank panel without a listener. There is one of every size here. On a machine of 64 bits the
pixels are a buffer of bytes, which is always shorter than `2 ^ 63`, so a panel of more pixels
cannot be built. -/
def blank (geometry : Geometry) : Panel :=
  { geometry, pixels := Array.replicate geometry.pixelCount 0 }

/-- The panel as a viewer gets it. -/
def snapshot (panel : Panel) : Snapshot :=
  ⟨panel.geometry, panel.pixels, panel.cursor, panel.received⟩

/-- Installs a listener in place of the one before. -/
def listen (panel : Panel) (name : String) : Panel :=
  { panel with listener := some name }

/-- Chooses whether an order to clear the panel resets it. -/
def setResetOnClear (panel : Panel) (enabled : Bool) : Panel :=
  { panel with resetOnClear := enabled }

/-- Answers whether the panel changed since the last time this was asked. -/
def takeDirty (panel : Panel) : Panel × Bool :=
  ({ panel with dirty := false }, panel.dirty)

/-! ### Changes -/

/-- The strokes a change makes on the picture. -/
def strokes (panel : Panel) : Change → List Stroke
  | .writeAt text row column mode => Stroke.ofText panel.geometry mode row column text
  | .write text mode =>
    Stroke.ofText panel.geometry mode panel.cursor.row panel.cursor.column text
  | .columns bytes =>
    Stroke.ofColumns panel.geometry (panel.cursor.row.toNat * cellHeight)
      (panel.cursor.column.toNat * cellWidth) bytes
  | .moveCursor .. => []
  | .clearAll | .reset => Stroke.blankAll panel.geometry
  | .clearRow row => Stroke.blankRow panel.geometry row

/-- Where a change leaves the cursor. -/
def cursorAfter (panel : Panel) : Change → Cursor
  | .writeAt text row column _ => ⟨row, Stroke.columnAfter column text⟩
  | .write text _ => { panel.cursor with column := Stroke.columnAfter panel.cursor.column text }
  | .moveCursor row column =>
    ⟨row.getD panel.cursor.row, column.getD panel.cursor.column⟩
  | .columns _ | .clearAll | .clearRow _ => panel.cursor
  | .reset => {}

/-- The count of orders after a change. -/
def receivedAfter (panel : Panel) : Change → Nat
  | .reset => 0
  | _ => panel.received + 1

/-- The panel after a change. -/
def changed (panel : Panel) (change : Change) : Panel :=
  { panel with
    pixels := Stroke.paint panel.pixels (panel.strokes change)
    cursor := panel.cursorAfter change
    received := panel.receivedAfter change
    dirty := true }

/-- The notice the listener of a panel gets about its present state. -/
def notices (panel : Panel) : List Notice :=
  (panel.listener.map fun name => ⟨name, panel.snapshot⟩).toList

/-- Makes a change and notifies the listener. -/
def perform (panel : Panel) (change : Change) : Panel × List Notice :=
  let after := panel.changed change
  (after, after.notices)

/-! ### Orders -/

/-- The change an order asks for, if the panel draws orders of its kind. -/
def changeOf? (panel : Panel) : Order → Option Change
  | .write content mode => some (.write content.toList mode)
  | .writeAt content row column mode =>
    some (.writeAt content.toList row.toUInt16 column.toUInt16 mode)
  | .columns bytes => some (.columns bytes)
  | .moveCursor row column =>
    some (.moveCursor (row.map UInt8.toUInt16) (column.map UInt8.toUInt16))
  | .clearAll => some (if panel.resetOnClear then .reset else .clearAll)
  | .clearRow row => some (.clearRow row.toUInt16)
  | .columnsAt .. | .graphicLine .. => none

/-- The change a payload asks for; a message asks for none. -/
def changeFor? (panel : Panel) : Payload → Option Change
  | .order content => panel.changeOf? content
  | .message _ => none

/-- Applies a command, or refuses it by its kind. -/
def apply (panel : Panel) (command : Command) : Except Kind (Panel × List Notice) :=
  match panel.changeFor? command.payload with
  | some change => .ok (panel.perform change)
  | none => .error command.kind

/-! ### Journal -/

/-- The lines for a change. -/
def changeEntries : Change → List Entry
  | .reset => [⟨.debug, "Display reset"⟩]
  | _ => []

/-- The lines for a command that is applied or refused. -/
def applyEntries (panel : Panel) (command : Command) : List Entry :=
  let number := Radix.decimal command.frameId
  let announced : Entry := ⟨.trace, "Applying frame " ++ number ++ ": " ++ command.summary⟩
  match panel.changeFor? command.payload with
  | some .reset =>
    [announced, ⟨.debug, "Clear display received, resetting"⟩] ++ changeEntries .reset
  | some change => announced :: changeEntries change
  | none =>
    [announced, ⟨.warn, "Frame " ++ number ++ ": " ++ command.kind.name ++
      " not applied to display"⟩]

/-! ### Inspection -/

/-- A record in braces, under its name. -/
def record (name : String) (fields : List String) : String :=
  name ++ " \x7b " ++ ", ".intercalate fields ++ " \x7d"

/-- The spelling of a truth value. -/
def truth (value : Bool) : String :=
  if value then "true" else "false"

/-- The state of a panel, without its pixels and its listener, for a developer to read. -/
def inspect (panel : Panel) : String :=
  record "DisplayEngine"
    ["geometry: " ++ record "DisplayGeometry"
        ["width: " ++ Radix.decimal panel.geometry.width,
          "height: " ++ Radix.decimal panel.geometry.height],
      "cursor: " ++ record "Cursor"
        ["row: " ++ Radix.decimal panel.cursor.row.toNat,
          "column: " ++ Radix.decimal panel.cursor.column.toNat],
      "commands_received: " ++ Radix.decimal panel.received,
      "dirty: " ++ truth panel.dirty,
      "reset_on_clear: " ++ truth panel.resetOnClear,
      ".."]

end Panel

end PanelLink
