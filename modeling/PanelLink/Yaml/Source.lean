/-
This file holds the text of a YAML document as it is read: the characters still to
come and the place of the next one. Places are counted in bytes from the start of the
text and in characters from the start of the line. Five characters break a line, and a
carriage return together with a line feed counts as one break.
-/

namespace PanelLink.Yaml

/-! ### Characters -/

/-- Whether a document may hold the character at all. -/
def isAllowed (character : Char) : Bool :=
  let code := character.toNat
  code == 0x09 || code == 0x0a || code == 0x0d || (0x20 ≤ code && code ≤ 0x7e) ||
    code == 0x85 || (0xa0 ≤ code && code ≤ 0xd7ff) || (0xe000 ≤ code && code ≤ 0xfffd) ||
    0x10000 ≤ code

/-- Whether the character separates words within a line. -/
def isSpacing (character : Char) : Bool :=
  character == ' ' || character == '\t'

/-- Whether the character ends a line. -/
def isBreak (character : Char) : Bool :=
  let code := character.toNat
  code == 0x0d || code == 0x0a || code == 0x85 || code == 0x2028 || code == 0x2029

/-- Whether the character may be part of the name of an anchor or a directive. -/
def isWordCharacter (character : Char) : Bool :=
  character.isAlphanum || character == '_' || character == '-'

/-! ### Places -/

/-- The number of bytes of some characters. -/
def byteCount (characters : List Char) : Nat :=
  characters.foldr (fun character total => character.utf8Size + total) 0

/-- The rest of a text, with the place where it starts. -/
structure Source where
  rest : List Char
  /-- The number of bytes before it. -/
  index : Nat := 0
  line : Nat := 0
  column : Nat := 0

namespace Source

/-- The next character. -/
def next? (source : Source) : Option Char :=
  source.rest.head?

/-- Whether the next character is the given one. -/
def startsWith (source : Source) (character : Char) : Bool :=
  source.next? == some character

/-- Whether the character some steps ahead is spacing, a break, or past the end. -/
def wordEndsAt (source : Source) (offset : Nat) : Bool :=
  match source.rest[offset]? with
  | some character => isSpacing character || isBreak character
  | none => true

/-- Whether the line is over: at a break or at the end. -/
def lineEnds (source : Source) : Bool :=
  match source.next? with
  | some character => isBreak character
  | none => true

/-- The source after characters that stay on the line. -/
def skip (source : Source) (count : Nat) : Source :=
  { source with
    rest := source.rest.drop count
    index := source.index + byteCount (source.rest.take count)
    column := source.column + count }

/-- The source after a line break, if one comes next, and the character it stands for. -/
def takeBreak? (source : Source) : Option (Char × Source) :=
  let after (count : Nat) : Source :=
    { source with
      rest := source.rest.drop count
      index := source.index + byteCount (source.rest.take count)
      line := source.line + 1
      column := 0 }
  match source.rest with
  | '\r' :: '\n' :: _ => some ('\n', after 2)
  | character :: _ =>
    if isBreak character then
      let code := character.toNat
      some (if code == 0x2028 || code == 0x2029 then character else '\n', after 1)
    else none
  | [] => none

/-- The source after the characters in front that satisfy a test, and those characters. -/
def takeWhile (source : Source) (test : Char → Bool) : List Char × Source :=
  let taken := source.rest.takeWhile test
  (taken, source.skip taken.length)

/-- The source after a comment, if one comes next. -/
def skipComment (source : Source) : Source :=
  if source.startsWith '#' then (source.takeWhile fun character => !isBreak character).2
  else source

/-- Whether a line starts here with a mark of three equal characters that ends a word. -/
def atDocumentMark (source : Source) (character : Char) : Bool :=
  source.column == 0 && source.rest.take 3 == [character, character, character] &&
    source.wordEndsAt 3

/-- Whether a line starts here with either mark between documents. -/
def atDocumentBoundary (source : Source) : Bool :=
  source.atDocumentMark '-' || source.atDocumentMark '.'

end Source

end PanelLink.Yaml
