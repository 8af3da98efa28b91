/-
This file holds the shapes a frame can have on the wire. A frame is a sentinel
byte followed by a body; the body starts with a category, an opcode and the
declared length of what comes after them. Each known pair of category and opcode
is one form, and each form needs a least number of body bytes.
-/

namespace PanelLink.Frame

/-! ### Constants of the wire -/

/-- The byte that starts every frame and appears nowhere else in one. -/
def sentinel : UInt8 := 0x23

/-- The number of body bytes before the fields: category, opcode and declared length. -/
def headerLength : Nat := 3

/-- The longest body a declared length can describe. -/
def bodyLimit : Nat := headerLength + 255

/-! ### Categories -/

/-- The family a frame belongs to. -/
inductive Category where
  | debug
  | display
  deriving DecidableEq, Repr

namespace Category

/-- The byte of a category. -/
def code : Category → UInt8
  | debug => 68
  | display => 76

/-- The category a byte stands for. -/
def ofCode? (byte : UInt8) : Option Category :=
  if byte = 68 then some debug else if byte = 76 then some display else none

/-- The name of a category in messages. -/
def name : Category → String
  | debug => "Debug"
  | display => "Display"

end Category

/-! ### Forms -/

/-- The known pairs of category and opcode. -/
inductive Form where
  /-- A message of the device. -/
  | message
  /-- A labelled number. -/
  | number
  /-- Text at the cursor. -/
  | text
  /-- Both axes of the cursor. -/
  | cursor
  /-- The row of the cursor alone. -/
  | cursorRow
  /-- The column of the cursor alone. -/
  | cursorColumn
  /-- One pixel column at the cursor. -/
  | column
  /-- Pixel columns from a cell on. -/
  | columnsAt
  /-- Text from a cell on, in one of the two modes. -/
  | textAtNormal
  | textAtInverse
  /-- One character at the cursor, in one of the two modes. -/
  | characterNormal
  | characterInverse
  /-- A line of graphics. -/
  | graphicLine
  /-- Blank one row. -/
  | clearRow
  /-- Blank everything. -/
  | clearAll
  deriving DecidableEq, Repr

namespace Form

/-- The category of a form. -/
def category : Form → Category
  | message | number => .debug
  | _ => .display

/-- The opcode of a form within its category. -/
def opcode : Form → UInt8
  | message => 1
  | number => 2
  | text => 1
  | cursor => 2
  | cursorRow => 3
  | cursorColumn => 4
  | column => 5
  | columnsAt => 6
  | textAtNormal => 7
  | textAtInverse => 8
  | characterNormal => 9
  | characterInverse => 10
  | graphicLine => 12
  | clearRow => 13
  | clearAll => 14

/-- The forms of the debug category, in the order of their opcodes. -/
def debugForms : List Form := [message, number]

/-- The forms of the display category, in the order of their opcodes. -/
def displayForms : List Form :=
  [text, cursor, cursorRow, cursorColumn, column, columnsAt, textAtNormal, textAtInverse,
    characterNormal, characterInverse, graphicLine, clearRow, clearAll]

/-- The forms of a category. -/
def ofCategory : Category → List Form
  | .debug => debugForms
  | .display => displayForms

/-- The form a category byte and an opcode name together. -/
def ofBytes? (category opcode : UInt8) : Option Form :=
  (Category.ofCode? category).bind fun known =>
    (ofCategory known).find? fun form => form.opcode == opcode

/-- The number of body bytes up to the last field that has to be there. -/
def leastBody : Form → Nat
  | text | graphicLine | clearAll => 2
  | cursorRow | cursorColumn | column | characterNormal | characterInverse | clearRow
  | message => 4
  | cursor | columnsAt | textAtNormal | textAtInverse => 5
  | number => 8

end Form

end PanelLink.Frame
