/-
This file holds the printed forms of a byte list. In messages it is two hexadecimal
digits for each byte, between square brackets and with a comma and a space between
neighbours. Where bytes are exchanged as text, the digits stand alone.
-/

import PanelLink.Text.Radix

namespace PanelLink.ByteList

/-- One byte as two hexadecimal digits. -/
def hexPair (byte : UInt8) : List Char :=
  Radix.padded 2 16 byte.toNat

/-- The pairs of a byte list with separators between them. -/
def pairs : List UInt8 → List Char
  | [] => []
  | [byte] => hexPair byte
  | byte :: rest => hexPair byte ++ [',', ' '] ++ pairs rest

/-- A byte list between brackets, as in `[0a, ff]`. -/
def bracketed (bytes : List UInt8) : String :=
  String.ofList ('[' :: pairs bytes ++ [']'])

/-- A byte list without brackets and separators. -/
def hex (bytes : List UInt8) : String :=
  String.ofList (bytes.flatMap hexPair)

/-- The byte list of a text of hexadecimal pairs. -/
def ofHex? : List Char → Option (List UInt8)
  | [] => some []
  | [_] => none
  | high :: low :: rest => do
    let value ← Radix.value? 16 [high, low]
    return UInt8.ofNat value :: (← ofHex? rest)

end PanelLink.ByteList
