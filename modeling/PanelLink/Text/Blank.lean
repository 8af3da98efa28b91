/-
This file holds the characters that count as white space and the removal of
white space at the start of a text.
-/

namespace PanelLink

/-- White space: the ASCII blanks and controls, and the spaces and separators beyond them. -/
def isBlank (character : Char) : Bool :=
  let code := character.toNat
  (0x09 ≤ code && code ≤ 0x0d) || code == 0x20 || code == 0x85 || code == 0xa0 ||
    code == 0x1680 || (0x2000 ≤ code && code ≤ 0x200a) || code == 0x2028 || code == 0x2029 ||
    code == 0x202f || code == 0x205f || code == 0x3000

/-- A text without the white space in front of it. -/
def trimStart (content : String) : String :=
  String.ofList (content.toList.dropWhile isBlank)

end PanelLink
