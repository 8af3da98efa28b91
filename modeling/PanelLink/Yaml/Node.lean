/-
This file holds the nodes of a YAML document and what they mean as settings. A number
or a truth value has to be plain; a name may be written in any style; an empty plain
scalar is an empty mapping. An alias means what the node means that it refers to. That
node may be one around the alias, so aliases are followed one at a time, when somebody
asks for the meaning.
-/

import PanelLink.Text.Radix
import PanelLink.Yaml.Token

namespace PanelLink.Yaml

/-! ### Trees -/

/-- A node of a document. -/
inductive Node where
  | scalar (text : String) (style : ScalarStyle) (tag : Option TagText)
  | sequence (items : List Node)
  | mapping (pairs : List (Node × Node))
  /-- A reference to the anchored node with a number. -/
  | alias (number : Nat)

namespace Node

/-- The node of a place where nothing is written. -/
def empty : Node :=
  .scalar "" .plain none

/-! ### Scalars as values -/

/-- What the tags of the core types start with. -/
def coreTags : TagText :=
  TagText.ofAscii "tag:yaml.org,2002:"

/-- Whether a scalar may be read as a core type: it is plain, or a literal with the tag. -/
def isTyped (style : ScalarStyle) (tag : Option TagText) (name : String) : Bool :=
  style == .plain || (style == .literal && tag == some (coreTags ++ TagText.ofAscii name))

/-- The text without a leading mark. -/
def without? (mark text : List Char) : Option (List Char) :=
  if mark.isPrefixOf text then some (text.drop mark.length) else none

/-- Whether the text starts with a sign. -/
def isSigned (text : List Char) : Bool :=
  match text with
  | '+' :: _ | '-' :: _ => true
  | _ => false

/-- Whether a decimal numeral has a zero in front of other digits. -/
def hasLeadingZero (text : List Char) : Bool :=
  match text with
  | '0' :: next :: rest => (next :: rest).all Char.isDigit
  | _ => false

/-- The natural number of a numeral: decimal, or in another base behind its mark. -/
def number? (text : List Char) : Option Nat :=
  let unsigned := (without? ['+'] text).getD text
  let marked := [("0x", 16), ("0o", 8), ("0b", 2)].filterMap fun (mark, base) =>
    (without? mark.toList unsigned).map fun rest => (rest, base)
  if marked.any fun (rest, _) => isSigned rest then none
  else
    match marked.findSome? fun (rest, base) => Radix.value? base rest with
    | some value => some value
    | none =>
      if isSigned unsigned || hasLeadingZero unsigned then none
      else Radix.value? 10 unsigned

/-- The natural number of a node. -/
def natural? : Node → Option Nat
  | .scalar text style tag => if isTyped style tag "int" then number? text.toList else none
  | _ => none

/-- The truth value of a node. -/
def boolean? : Node → Option Bool
  | .scalar text style tag =>
    if isTyped style tag "bool" then
      if ["true", "True", "TRUE"].contains text then some true
      else if ["false", "False", "FALSE"].contains text then some false
      else none
    else none
  | _ => none

/-- Whether a scalar stands for nothing. -/
def isNothing (text : String) (style : ScalarStyle) : Bool :=
  style == .plain && ["", "~", "null", "Null", "NULL"].contains text

/-- The name that a tag spells: what follows its exclamation mark, or the mark if it is alone.
Other tags spell none, and neither do those whose bytes are no text. -/
def spelled? (tag : TagText) : Option String :=
  match tag with
  | 0x21 :: rest =>
    String.fromUTF8? (ByteArray.mk (if rest.isEmpty then tag else rest).toArray)
  | _ => none

/-- The name of a node: its text, or the name its tag spells in front of an empty scalar. -/
def name? : Node → Option String
  | .scalar text style tag =>
    match tag.bind spelled? with
    | some name => if isNothing text style then some name else none
    | none => some text
  | _ => none

/-- The text of a node that is a key. -/
def keyText? : Node → Option String
  | .scalar text _ _ => some text
  | _ => none

/-- The pairs of a node. -/
def pairs? : Node → Option (List (Node × Node))
  | .mapping pairs => some pairs
  | .scalar text style _ => if text.isEmpty && style == .plain then some [] else none
  | _ => none

end Node

/-! ### Documents -/

/-- A node of a document, with the anchored nodes that aliases refer to. -/
structure Document where
  node : Node
  anchored : List (Nat × Node) := []

namespace Document

/-- The node that a node stands for: an alias for the one it refers to. -/
def follow? (document : Document) : Node → Option Node
  | .alias number => document.anchored.lookup number
  | node => some node

/-- The natural number of a document. -/
def natural? (document : Document) : Option Nat :=
  (document.follow? document.node).bind Node.natural?

/-- The truth value of a document. -/
def boolean? (document : Document) : Option Bool :=
  (document.follow? document.node).bind Node.boolean?

/-- The name of a document. -/
def name? (document : Document) : Option String :=
  (document.follow? document.node).bind Node.name?

/-- One field of a document, from a pair of nodes. -/
def field? (document : Document) (key value : Node) : Option (String × Document) :=
  ((document.follow? key).bind Node.keyText?).map fun name =>
    (name, { document with node := value })

/-- The fields of a document, in the order they are written. -/
def fields? (document : Document) : Option (List (String × Document)) :=
  ((document.follow? document.node).bind Node.pairs?).bind fun pairs =>
    pairs.mapM fun (key, value) => document.field? key value

end Document

end PanelLink.Yaml
