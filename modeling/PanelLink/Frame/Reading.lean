/-
This file reads the body of one frame. The first two bytes select the form, the
form says where its fields are, and a field that is missing or selects nothing
refuses the frame. The declared length and the bytes past the last field do not
matter. Lists of bytes and texts run to the end of the body and may be empty.
-/

import PanelLink.Command.Basic
import PanelLink.Frame.Form
import PanelLink.Frame.Rejection
import PanelLink.Text.SingleByte

namespace PanelLink.Frame

/-! ### Fields -/

/-- The byte at a position of the body. -/
def byteAt (body : List UInt8) (position : Nat) : Except Reason UInt8 :=
  match body[position]? with
  | some byte => .ok byte
  | none => .error (.truncated (position + 1) body.length)

/-- The text from a position of the body on. -/
def textFrom (body : List UInt8) (position : Nat) : String :=
  SingleByte.decode (body.drop position)

/-- The number whose four bytes are given, lowest first. -/
def littleEndian (first second third fourth : UInt8) : UInt32 :=
  UInt32.ofNat
    (first.toNat + 256 * (second.toNat + 256 * (third.toNat + 256 * fourth.toNat)))

/-- The four-byte number from a position of the body on. -/
def numberAt (body : List UInt8) (position : Nat) : Except Reason UInt32 :=
  match body.drop position with
  | first :: second :: third :: fourth :: _ => .ok (littleEndian first second third fourth)
  | _ => .error (.truncated (position + 4) body.length)

/-- The text from a position of the body up to the first zero byte, or to the end. -/
def labelFrom (body : List UInt8) (position : Nat) : String :=
  SingleByte.decode ((body.drop position).takeWhile (· ≠ 0))

/-- The severity at a position of the body. -/
def severityAt (body : List UInt8) (position : Nat) : Except Reason Severity := do
  let byte ← byteAt body position
  match Severity.ofCode? byte with
  | some severity => .ok severity
  | none => .error (.badLookup .severity byte)

/-- The number format at a position of the body. -/
def formatAt (body : List UInt8) (position : Nat) : Except Reason NumberFormat := do
  let byte ← byteAt body position
  match NumberFormat.ofCode? byte with
  | some format => .ok format
  | none => .error (.badLookup .numberFormat byte)

/-! ### Payloads -/

/-- The order of a text frame that names its cell. -/
def readTextAt (mode : TextMode) (body : List UInt8) : Except Reason Order := do
  let row ← byteAt body 3
  let column ← byteAt body 4
  return .writeAt (textFrom body 5) row column mode

/-- The order of a frame with one character. -/
def readCharacter (mode : TextMode) (body : List UInt8) : Except Reason Order := do
  let byte ← byteAt body 3
  return .write (SingleByte.decode [byte]) mode

/-- The message of a text frame. -/
def readMessage (body : List UInt8) : Except Reason Message := do
  let severity ← severityAt body 3
  return .text (textFrom body 4) severity

/-- The message of a number frame. -/
def readNumber (body : List UInt8) : Except Reason Message := do
  let format ← formatAt body 3
  let value ← numberAt body 4
  return .number (labelFrom body 8) value format

/-- The payload of a body whose form is known. -/
def Form.read (form : Form) (body : List UInt8) : Except Reason Payload :=
  match form with
  | message => .message <$> readMessage body
  | number => .message <$> readNumber body
  | text => .ok (.order (.write (textFrom body 3) .normal))
  | cursor => do
    let row ← byteAt body 3
    let column ← byteAt body 4
    return .order (.moveCursor (some row) (some column))
  | cursorRow => do
    let row ← byteAt body 3
    return .order (.moveCursor (some row) none)
  | cursorColumn => do
    let column ← byteAt body 3
    return .order (.moveCursor none (some column))
  | column => do
    let byte ← byteAt body 3
    return .order (.columns [byte])
  | columnsAt => do
    let row ← byteAt body 3
    let column ← byteAt body 4
    return .order (.columnsAt row column (body.drop 5))
  | textAtNormal => .order <$> readTextAt .normal body
  | textAtInverse => .order <$> readTextAt .inverse body
  | characterNormal => .order <$> readCharacter .normal body
  | characterInverse => .order <$> readCharacter .inverse body
  | graphicLine => .ok (.order (.graphicLine (body[3]?.getD 0) (body.drop 4)))
  | clearRow => do
    let row ← byteAt body 3
    return .order (.clearRow row)
  | clearAll => .ok (.order .clearAll)

/-- The payload of a body. -/
def readPayload (body : List UInt8) : Except Reason Payload :=
  match body with
  | [] => .error .emptyFrame
  | category :: _ => do
    let opcode ← byteAt body 1
    match Form.ofBytes? category opcode with
    | some form => form.read body
    | none => .error (.unknownCommand category opcode)

/-! ### Commands -/

/-- What became of one frame. -/
abbrev Outcome := Except Rejection Command

/-- The command of a body, or the report of its refusal; both carry the frame number. -/
def read (frameId : Nat) (body : List UInt8) : Outcome :=
  match readPayload body with
  | .ok payload => .ok ⟨frameId, payload⟩
  | .error reason => .error ⟨frameId, reason, body⟩

end PanelLink.Frame
