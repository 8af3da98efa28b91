/-
This file holds the one-line summary of a payload, as a log of commands shows it.
Texts of the panel are quoted, byte lists are bracketed, and an absent cursor axis
is a dash.
-/

import PanelLink.Command.Basic
import PanelLink.Text.Blank
import PanelLink.Text.ByteList
import PanelLink.Text.Quoted

namespace PanelLink

/-- The words in front of a message of the given severity. -/
def Severity.tag : Severity → String
  | .normal => ""
  | .error => "[error] "
  | .ok => "[ok] "

/-- The summary of a message; a number without a label starts at its digits. -/
def Message.summary : Message → String
  | .text content severity => severity.tag ++ content
  | .number label value format => trimStart (label ++ " " ++ format.shown value)

/-- A cursor axis in decimal, or a dash where it stays. -/
def axisText : Option UInt8 → String
  | none => "-"
  | some place => Radix.decimal place.toNat

/-- A pair of cell coordinates. -/
def cellText (row column : UInt8) : String :=
  Radix.decimal row.toNat ++ "," ++ Radix.decimal column.toNat

/-- The mode of a text, as it ends a summary. -/
def modeText (mode : TextMode) : String :=
  "(" ++ mode.name ++ ")"

/-- The summary of an order. -/
def Order.summary : Order → String
  | .write content mode => "write " ++ Quoted.text content ++ " " ++ modeText mode
  | .writeAt content row column mode =>
    "write " ++ Quoted.text content ++ " at " ++ cellText row column ++ " " ++ modeText mode
  | .columns bytes => "column data " ++ ByteList.bracketed bytes
  | .moveCursor row column => "cursor " ++ axisText row ++ "," ++ axisText column
  | .clearAll => "clear display"
  | .clearRow row => "clear row " ++ Radix.decimal row.toNat
  | .columnsAt row column bytes =>
    "multi-column at " ++ cellText row column ++ " " ++ ByteList.bracketed bytes
  | .graphicLine columnCount bytes =>
    "graphic line (" ++ Radix.decimal columnCount.toNat ++ " columns, " ++
      Radix.decimal bytes.length ++ " bytes)"

/-- The summary of a payload. -/
def Payload.summary : Payload → String
  | .message content => content.summary
  | .order content => content.summary

/-- The summary of a command; the frame number is not part of it. -/
def Command.summary (command : Command) : String :=
  command.payload.summary

end PanelLink
