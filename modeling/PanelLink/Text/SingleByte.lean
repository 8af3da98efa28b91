/-
This file holds texts whose characters take one byte each: a byte stands for the
character with the same code point, so exactly the characters up to U+00FF can be
written.
-/

namespace PanelLink.SingleByte

/-- The character a byte stands for. -/
def character (byte : UInt8) : Char :=
  Char.ofNat byte.toNat

/-- The byte of a character, for a character up to U+00FF. -/
def byte? (character : Char) : Option UInt8 :=
  if character.toNat < 256 then some (UInt8.ofNat character.toNat) else none

/-- The text a byte list stands for. -/
def decode (bytes : List UInt8) : String :=
  String.ofList (bytes.map character)

/-- The bytes of a list of characters, or the first character that has none. -/
def encodeChars : List Char → Except Char (List UInt8)
  | [] => .ok []
  | character :: rest =>
    match byte? character with
    | none => .error character
    | some byte => (encodeChars rest).map (byte :: ·)

/-- The bytes of a text, or its first character that has none. -/
def encode (content : String) : Except Char (List UInt8) :=
  encodeChars content.toList

end PanelLink.SingleByte
