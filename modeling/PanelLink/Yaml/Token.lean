/-
This file holds the tokens of a YAML document. Block structure that the text shows
by indentation alone has tokens of its own.
-/

namespace PanelLink.Yaml

/-- How a scalar is written. -/
inductive ScalarStyle where
  | plain
  | quoted
  | literal
  | folded
  deriving DecidableEq, Repr

/-- The text of a tag. Escapes can spell any bytes, so it need not be made of characters. -/
abbrev TagText := List UInt8

/-- The bytes of a text that consists of ASCII characters. -/
def TagText.ofAscii (text : String) : TagText :=
  text.toList.map fun character => UInt8.ofNat character.toNat

/-- A tag as it is written: a handle, which may be empty, and a suffix. -/
structure TagName where
  handle : String
  suffix : TagText
  deriving DecidableEq, Repr

/-- The tokens of a document. -/
inductive Token where
  | versionDirective (major minor : Nat)
  | tagDirective (handle : String) (expansion : TagText)
  | documentStart
  | documentEnd
  | blockSequenceStart
  | blockMappingStart
  | blockEnd
  | flowSequenceStart
  | flowSequenceEnd
  | flowMappingStart
  | flowMappingEnd
  | blockEntry
  | flowEntry
  | key
  | value
  | alias (name : String)
  | anchor (name : String)
  | tag (name : TagName)
  | scalar (text : String) (style : ScalarStyle)
  deriving DecidableEq, Repr

end PanelLink.Yaml
