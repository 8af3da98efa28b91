/-
This file holds the reasons why a frame is refused and the report of a refusal.
A report names the frame, the reason and the body bytes it is about, so that a
diagnostic view can show them.
-/

import PanelLink.Text.ByteList

namespace PanelLink.Frame

/-- The fields whose byte selects an entry of a fixed list. -/
inductive LookupField where
  | severity
  | numberFormat
  deriving DecidableEq, Repr

/-- The name of a field in messages. -/
def LookupField.name : LookupField → String
  | .severity => "severity"
  | .numberFormat => "number format"

/-- Why a frame is refused. -/
inductive Reason where
  /-- The category and the opcode are no known pair. -/
  | unknownCommand (category opcode : UInt8)
  /-- A field lies past the end of the body. -/
  | truncated (needed got : Nat)
  /-- A byte selects no entry of its list. -/
  | badLookup (field : LookupField) (value : UInt8)
  /-- The body has no bytes. -/
  | emptyFrame
  /-- A body without a declared length outgrew the limit. -/
  | oversized (limit : Nat)
  deriving DecidableEq, Repr

/-- The words for a reason. -/
def Reason.words : Reason → String
  | .unknownCommand category opcode =>
    "unknown command (category " ++ Radix.decimal category.toNat ++ ", opcode " ++
      Radix.decimal opcode.toNat ++ ")"
  | .truncated needed got =>
    "frame truncated: needed " ++ Radix.decimal needed ++ " bytes, got " ++ Radix.decimal got
  | .badLookup field value =>
    field.name ++ " byte " ++ Radix.decimal value.toNat ++ " is out of range"
  | .emptyFrame => "frame has no header"
  | .oversized limit =>
    "frame exceeded " ++ Radix.decimal limit ++ " bytes without a sentinel"

/-- The report of a refused frame. -/
structure Rejection where
  frameId : Nat
  reason : Reason
  raw : List UInt8
  deriving DecidableEq, Repr

/-- The report in words. -/
def Rejection.message (rejection : Rejection) : String :=
  "Frame " ++ Radix.decimal rejection.frameId ++ " rejected: " ++ rejection.reason.words ++
    " (raw " ++ ByteList.bracketed rejection.raw ++ ")"

end PanelLink.Frame
