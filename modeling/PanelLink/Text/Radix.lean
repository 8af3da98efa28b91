/-
This file holds positional numerals: the digits of a number in a base, and the
same digits filled up with zeros on the left to a fixed width. Digits above nine
are lower-case letters.
-/

namespace PanelLink.Radix

/-- The digits of a number, most significant first; zero is written as one digit. -/
def digits (base number : Nat) : List Char :=
  Nat.toDigits base number

/-- The digits of a number, with zeros in front up to the given width. -/
def padded (width base number : Nat) : List Char :=
  (digits base number).leftpad width '0'

/-- The decimal text of a number. -/
def decimal (number : Nat) : String :=
  String.ofList (digits 10 number)

/-- The value of one digit, in a base up to sixteen; letters count in either case. -/
def digitValue? (base : Nat) (character : Char) : Option Nat :=
  let value? :=
    if '0' ≤ character ∧ character ≤ '9' then some (character.toNat - '0'.toNat)
    else if 'a' ≤ character ∧ character ≤ 'f' then some (character.toNat - 'a'.toNat + 10)
    else if 'A' ≤ character ∧ character ≤ 'F' then some (character.toNat - 'A'.toNat + 10)
    else none
  value?.filter (· < base)

/-- Extends a value by digits on its right; `none` at the first character that is no digit. -/
def extend? (base : Nat) : Nat → List Char → Option Nat
  | value, [] => some value
  | value, character :: rest =>
    match digitValue? base character with
    | some digit => extend? base (value * base + digit) rest
    | none => none

/-- The number a non-empty numeral stands for. -/
def value? (base : Nat) : List Char → Option Nat
  | [] => none
  | numeral => extend? base 0 numeral

end PanelLink.Radix
