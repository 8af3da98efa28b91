/-
This file holds the commands a device sends. A payload is either a message for
the log of the host or an order for the panel. A command is a payload together
with the number of the frame that carried it.
-/

import PanelLink.Command.Mode
import PanelLink.Command.NumberFormat

namespace PanelLink

/-! ### Payloads -/

/-- Output of the device that does not touch the panel. -/
inductive Message where
  /-- A line of text with its severity. -/
  | text (content : String) (severity : Severity)
  /-- A labelled number and the format it is to be shown in. -/
  | number (label : String) (value : UInt32) (format : NumberFormat)
  deriving DecidableEq, Repr

/-- Something the device wants the panel to do. -/
inductive Order where
  /-- Write a text at the cursor. -/
  | write (content : String) (mode : TextMode)
  /-- Write a text from a given cell on. -/
  | writeAt (content : String) (row column : UInt8) (mode : TextMode)
  /-- Put raw pixel columns at the cursor, one byte for each. -/
  | columns (bytes : List UInt8)
  /-- Move the cursor; an absent axis keeps its place. -/
  | moveCursor (row column : Option UInt8)
  /-- Blank the whole panel. -/
  | clearAll
  /-- Blank one row of cells. -/
  | clearRow (row : UInt8)
  /-- Put raw pixel columns from a given cell on. The panel does not draw these. -/
  | columnsAt (row column : UInt8) (bytes : List UInt8)
  /-- Draw a line of graphics. The panel does not draw these either. -/
  | graphicLine (columnCount : UInt8) (bytes : List UInt8)
  deriving DecidableEq, Repr

/-- What one frame carries. -/
inductive Payload where
  | message (content : Message)
  | order (content : Order)
  deriving DecidableEq, Repr

/-! ### Kinds -/

/-- The kinds of payload, without their contents. -/
inductive Kind where
  | debugText
  | debugNumber
  | write
  | writeAt
  | columns
  | moveCursor
  | clearAll
  | clearRow
  | columnsAt
  | graphicLine
  deriving DecidableEq, Repr

/-- All kinds. -/
def Kind.all : List Kind :=
  [debugText, debugNumber, write, writeAt, columns, moveCursor, clearAll, clearRow, columnsAt,
    graphicLine]

/-- The name a kind has in messages and logs. -/
def Kind.name : Kind → String
  | .debugText => "DebugText"
  | .debugNumber => "DebugNumber"
  | .write => "DisplayWriteChar"
  | .writeAt => "DisplayWriteTextAt"
  | .columns => "DisplayWriteColumnData"
  | .moveCursor => "DisplaySetCursor"
  | .clearAll => "DisplayClearAll"
  | .clearRow => "DisplayClearRow"
  | .columnsAt => "DisplayWriteMultiColumn"
  | .graphicLine => "DisplayGraphicLine"

/-- The kind of a message. -/
def Message.kind : Message → Kind
  | .text .. => .debugText
  | .number .. => .debugNumber

/-- The kind of an order. -/
def Order.kind : Order → Kind
  | .write .. => .write
  | .writeAt .. => .writeAt
  | .columns .. => .columns
  | .moveCursor .. => .moveCursor
  | .clearAll => .clearAll
  | .clearRow .. => .clearRow
  | .columnsAt .. => .columnsAt
  | .graphicLine .. => .graphicLine

/-- The kind of a payload. -/
def Payload.kind : Payload → Kind
  | .message content => content.kind
  | .order content => content.kind

/-- Whether a payload is meant for the panel. -/
def Payload.isOrder : Payload → Bool
  | .message _ => false
  | .order _ => true

/-! ### Commands -/

/-- The payload of one frame and the number of that frame. -/
structure Command where
  frameId : Nat
  payload : Payload
  deriving DecidableEq, Repr

/-- The kind of a command. -/
def Command.kind (command : Command) : Kind :=
  command.payload.kind

end PanelLink
