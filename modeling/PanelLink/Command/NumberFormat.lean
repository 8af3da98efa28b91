/-
This file holds the formats a device can ask for when it sends a number: a width
in bits and a style of digits. A number is cut to the width first. Hexadecimal
and binary digits fill the whole width with zeros behind a base mark; decimal
digits have neither.
-/

import PanelLink.Text.Radix

namespace PanelLink

/-! ### Digit styles -/

/-- The digits a number is shown with. -/
inductive DigitStyle where
  | hexadecimal
  | decimal
  | binary
  deriving DecidableEq, Repr

namespace DigitStyle

/-- The base of the digits. -/
def base : DigitStyle → Nat
  | hexadecimal => 16
  | decimal => 10
  | binary => 2

/-- The mark in front of the digits. -/
def mark : DigitStyle → List Char
  | hexadecimal => ['0', 'x']
  | decimal => []
  | binary => ['0', 'b']

/-- The least number of digits for a width in bits. -/
def leastDigits (style : DigitStyle) (bits : Nat) : Nat :=
  match style with
  | hexadecimal => bits / 4
  | decimal => 1
  | binary => bits

end DigitStyle

/-! ### Formats -/

/-- The number formats of the protocol. -/
inductive NumberFormat where
  | hex8
  | hex16
  | hex32
  | dec8
  | dec16
  | bin8
  | bin16
  | bin32
  deriving DecidableEq, Repr

namespace NumberFormat

/-- The formats in the order of their wire codes. -/
def all : List NumberFormat := [.hex8, .hex16, .hex32, .dec8, .dec16, .bin8, .bin16, .bin32]

/-- The byte that stands for a format, counting from one. -/
def code : NumberFormat → UInt8
  | .hex8 => 1
  | .hex16 => 2
  | .hex32 => 3
  | .dec8 => 4
  | .dec16 => 5
  | .bin8 => 6
  | .bin16 => 7
  | .bin32 => 8

/-- The format a byte stands for. -/
def ofCode? (byte : UInt8) : Option NumberFormat :=
  all.find? fun format => format.code == byte

/-- The width of the number in bits. -/
def bits : NumberFormat → Nat
  | .hex8 | .dec8 | .bin8 => 8
  | .hex16 | .dec16 | .bin16 => 16
  | .hex32 | .bin32 => 32

/-- The style of the digits. -/
def style : NumberFormat → DigitStyle
  | .hex8 | .hex16 | .hex32 => .hexadecimal
  | .dec8 | .dec16 => .decimal
  | .bin8 | .bin16 | .bin32 => .binary

/-- The low bits of a number, as many as the format is wide. -/
def truncate (format : NumberFormat) (number : UInt32) : Nat :=
  number.toNat % Nat.pow 2 format.bits

/-- The digits of a number behind the base mark. -/
def numeral (format : NumberFormat) (number : UInt32) : List Char :=
  Radix.padded (format.style.leastDigits format.bits) format.style.base (format.truncate number)

/-- The characters a number is shown with. -/
def shownChars (format : NumberFormat) (number : UInt32) : List Char :=
  format.style.mark ++ format.numeral number

/-- The text a number is shown with. -/
def shown (format : NumberFormat) (number : UInt32) : String :=
  String.ofList (format.shownChars number)

end NumberFormat

end PanelLink
