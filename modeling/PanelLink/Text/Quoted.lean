/-
This file holds the quoted form of a text and of a single character. A text
stands between double quotes and a character between single ones; the quote in
use and the backslash are escaped, five control characters have a letter, and a
hidden character is written as its code point in hexadecimal between braces.
-/

import PanelLink.Text.Hidden
import PanelLink.Text.Radix

namespace PanelLink.Quoted

/-- The code point of a character between braces, in lower case and without padding. -/
def codePoint (character : Char) : List Char :=
  ['\\', 'u', '\x7b'] ++ Radix.digits 16 character.toNat ++ ['\x7d']

/-- One character as it stands inside quotes of the given kind. -/
def escape (quote character : Char) : List Char :=
  if character = quote ∨ character = '\\' then ['\\', character]
  else if character = '\t' then ['\\', 't']
  else if character = '\r' then ['\\', 'r']
  else if character = '\n' then ['\\', 'n']
  else if character = '\x00' then ['\\', '0']
  else if isHidden character then codePoint character
  else [character]

/-- The mark on both sides of a quoted text. -/
def textMark : Char := '\x22'

/-- The mark on both sides of a quoted character. -/
def characterMark : Char := '\x27'

/-- The characters of a text between double quotes. -/
def textChars (content : List Char) : List Char :=
  textMark :: content.flatMap (escape textMark) ++ [textMark]

/-- A text between double quotes. -/
def text (content : String) : String :=
  String.ofList (textChars content.toList)

/-- A character between single quotes. -/
def character (content : Char) : String :=
  String.ofList (characterMark :: escape characterMark content ++ [characterMark])

end PanelLink.Quoted
