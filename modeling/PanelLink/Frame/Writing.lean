/-
This file writes frames, as a device would send them. A payload is laid out as a
form with its field bytes and then framed; what the wire cannot carry is refused
and never altered. The declared length is the number of field bytes, so an order
without fields declares zero and ends only at the next sentinel.
-/

import PanelLink.Command.Basic
import PanelLink.Frame.Form
import PanelLink.Text.Quoted
import PanelLink.Text.SingleByte

namespace PanelLink.Frame

/-! ### Refusals -/

/-- Why a payload cannot be written. -/
inductive WriteError where
  /-- The declared length is one byte, and the fields are longer. -/
  | tooLong (length : Nat)
  /-- A byte after the first would read as the start of a frame. -/
  | sentinelInside (position : Nat) (category : Category) (opcode : UInt8)
  /-- A character needs more than one byte. -/
  | wideCharacter (character : Char)
  /-- Inverse text at the cursor goes one character at a time. -/
  | inverseNotOneCharacter
  /-- Pixel columns at the cursor go one at a time. -/
  | notOneColumn
  /-- A cursor order has to name an axis. -/
  | cursorWithoutAxis
  deriving DecidableEq, Repr

/-- The words for a refusal. -/
def WriteError.words : WriteError → String
  | .tooLong length => "payload of " ++ Radix.decimal length ++ " bytes exceeds 255"
  | .sentinelInside position category opcode =>
    "byte " ++ Radix.decimal position ++ " of frame (category " ++ category.name ++
      ", opcode " ++ Radix.decimal opcode.toNat ++ ") is the sentinel"
  | .wideCharacter character =>
    Quoted.character character ++ " is not a single-byte character"
  | .inverseNotOneCharacter => "inverse writes at the cursor carry exactly one character"
  | .notOneColumn => "column data frames carry exactly one byte"
  | .cursorWithoutAxis => "cursor update without row or column"

/-! ### Framing -/

/-- The frame of field bytes behind a category and an opcode. -/
def frame (category : Category) (opcode : UInt8) (fields : List UInt8) :
    Except WriteError (List UInt8) :=
  if 255 < fields.length then
    .error (.tooLong fields.length)
  else
    let body := category.code :: opcode :: UInt8.ofNat fields.length :: fields
    match body.findIdx? (· == sentinel) with
    | some index => .error (.sentinelInside (index + 1) category opcode)
    | none => .ok (sentinel :: body)

/-! ### Laying a payload out -/

/-- The bytes of a text, as a field. -/
def textField (content : String) : Except WriteError (List UInt8) :=
  (SingleByte.encode content).mapError .wideCharacter

/-- The four bytes of a number, lowest first. -/
def numberField (value : UInt32) : List UInt8 :=
  let number := value.toNat
  [UInt8.ofNat (number % 256), UInt8.ofNat (number / 256 % 256),
    UInt8.ofNat (number / 65536 % 256), UInt8.ofNat (number / 16777216 % 256)]

/-- The form and the fields of a message; a label ends with a zero byte. -/
def layMessage : Message → Except WriteError (Form × List UInt8)
  | .text content severity => do
    let text ← textField content
    return (.message, severity.code :: text)
  | .number label value format => do
    let text ← textField label
    return (.number, format.code :: numberField value ++ text ++ [0])

/-- The form of a text at a given cell. -/
def formTextAt : TextMode → Form
  | .normal => .textAtNormal
  | .inverse => .textAtInverse

/-- The form of a single character at the cursor. -/
def formCharacter : TextMode → Form
  | .normal => .characterNormal
  | .inverse => .characterInverse

/-- The form and the fields of a text at the cursor; one character has a form of its own. -/
def layWrite (content : String) (mode : TextMode) : Except WriteError (Form × List UInt8) :=
  match content.toList, mode with
  | [_], mode => do
    let text ← textField content
    return (formCharacter mode, text)
  | _, .normal => do
    let text ← textField content
    return (.text, text)
  | _, .inverse => .error .inverseNotOneCharacter

/-- The form and the fields of an order. -/
def layOrder : Order → Except WriteError (Form × List UInt8)
  | .write content mode => layWrite content mode
  | .writeAt content row column mode => do
    let text ← textField content
    return (formTextAt mode, row :: column :: text)
  | .columns [byte] => .ok (.column, [byte])
  | .columns _ => .error .notOneColumn
  | .moveCursor (some row) (some column) => .ok (.cursor, [row, column])
  | .moveCursor (some row) none => .ok (.cursorRow, [row])
  | .moveCursor none (some column) => .ok (.cursorColumn, [column])
  | .moveCursor none none => .error .cursorWithoutAxis
  | .clearAll => .ok (.clearAll, [])
  | .clearRow row => .ok (.clearRow, [row])
  | .columnsAt row column bytes => .ok (.columnsAt, row :: column :: bytes)
  | .graphicLine columnCount bytes => .ok (.graphicLine, columnCount :: bytes)

/-- The form and the fields of a payload. -/
def layOut : Payload → Except WriteError (Form × List UInt8)
  | .message content => layMessage content
  | .order content => layOrder content

/-! ### Frames of payloads -/

/-- The frame of fields laid out in a form. -/
def ofForm (form : Form) (fields : List UInt8) : Except WriteError (List UInt8) :=
  frame form.category form.opcode fields

/-- The frame of a payload. -/
def write (payload : Payload) : Except WriteError (List UInt8) := do
  let (form, fields) ← layOut payload
  ofForm form fields

/-- The frame of a text at the cursor, in the text form whatever its length. -/
def writeText (content : String) : Except WriteError (List UInt8) := do
  let text ← textField content
  ofForm .text text

end PanelLink.Frame
