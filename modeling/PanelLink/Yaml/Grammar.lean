/-
This file builds the tree of a YAML document from its tokens. A stream holds at most
one document. An anchor names the node it stands in front of, from the start of that
node on, and an alias has to name an anchor before it. An alias keeps the number of its
anchor, which is the number of names known before it. A name that is used again
takes a new number, and so a name that is new after that can share it: of the nodes with
one number, the one that starts last is meant. What does not follow the grammar gives
nothing.
-/

import PanelLink.Yaml.Lexer
import PanelLink.Yaml.Node

namespace PanelLink.Yaml

/-! ### State -/

/-- The tokens still to come, with the anchors seen so far and the tag handles declared. -/
structure Reader where
  tokens : List Token
  /-- The names of the anchors, each once, with their numbers. -/
  anchors : List (String × Nat) := []
  /-- The numbers of the anchored nodes that have started, each with its turn, the latest
  first. -/
  started : List (Nat × Nat) := []
  /-- The anchored nodes that have been read, under their turns. -/
  completed : List (Nat × Node) := []
  handles : List (String × TagText) := []

namespace Reader

/-- The next token. -/
def next? (reader : Reader) : Option Token :=
  reader.tokens.head?

/-- The reader after the next token. -/
def advance (reader : Reader) : Reader :=
  { reader with tokens := reader.tokens.drop 1 }

/-- Whether the next token is one of the given ones. -/
def isAt (reader : Reader) (tokens : List Token) : Bool :=
  reader.next?.any tokens.contains

/-- Starts an anchored node; its turn comes along. -/
def declare (reader : Reader) (anchor : String) : Reader × Nat :=
  let number := reader.anchors.length
  let turn := reader.started.length
  ({ reader with
      anchors := (anchor, number) :: reader.anchors.filter fun entry => entry.1 != anchor
      started := (number, turn) :: reader.started },
    turn)

/-- Keeps the node that started at a turn. -/
def complete (reader : Reader) (turn : Nat) (node : Node) : Reader :=
  { reader with completed := (turn, node) :: reader.completed }

/-- The anchored nodes under their numbers, the one that started last in front. -/
def anchored (reader : Reader) : List (Nat × Node) :=
  reader.started.filterMap fun (number, turn) =>
    (reader.completed.lookup turn).map fun node => (number, node)

/-- The full text of a tag, with its handle replaced by what the handle stands for. -/
def resolveTag (reader : Reader) (tag : TagName) : Option TagText :=
  if tag.handle.isEmpty then some tag.suffix
  else
    match reader.handles.lookup tag.handle with
    | some expansion => some (expansion ++ tag.suffix)
    | none =>
      if tag.handle == "!" then some (TagText.ofAscii "!" ++ tag.suffix)
      else if tag.handle == "!!" then some (Node.coreTags ++ tag.suffix)
      else none

/-- What stands in front of a node. -/
structure Properties where
  anchor : Option String := none
  tag : Option TagName := none

/-- Reads an anchor and a tag, in either order, as far as they are there. -/
def readProperties (reader : Reader) : Properties × Reader :=
  match reader.tokens with
  | .anchor name :: .tag tag :: rest => (⟨some name, some tag⟩, { reader with tokens := rest })
  | .tag tag :: .anchor name :: rest => (⟨some name, some tag⟩, { reader with tokens := rest })
  | .anchor name :: rest => (⟨some name, none⟩, { reader with tokens := rest })
  | .tag tag :: rest => (⟨none, some tag⟩, { reader with tokens := rest })
  | _ => ({}, reader)

end Reader

/-! ### Nodes -/

/-- Where a node stands, which decides what kinds of collection may be there. -/
inductive Place where
  /-- In a flow collection: only flow collections. -/
  | flow
  /-- In a block sequence or at the top: block collections as well. -/
  | block
  /-- In a block mapping: also a sequence that shares the indentation of the mapping. -/
  | pair
  deriving DecidableEq

mutual

/-- Reads a node with what stands in front of it. -/
def readNode : Nat → Place → Reader → Option (Node × Reader)
  | 0, _, _ => none
  | fuel + 1, place, reader =>
    match reader.next? with
    | some (.alias name) =>
      (reader.anchors.lookup name).map fun number => (.alias number, reader.advance)
    | _ => do
      let (properties, start) := reader.readProperties
      let tag ← match properties.tag with
        | some name => (start.resolveTag name).map some
        | none => some none
      match properties.anchor with
      | none => readBody fuel place tag.isNone tag start
      | some anchor =>
        let (declared, turn) := start.declare anchor
        let (node, after) ← readBody fuel place false tag declared
        return (node, after.complete turn node)

/-- Reads a node from behind its properties on. One with properties may be empty. -/
def readBody : Nat → Place → Bool → Option TagText → Reader → Option (Node × Reader)
  | 0, _, _, _, _ => none
  | fuel + 1, place, bare, tag, reader =>
    let nothing := if bare then none else some (.scalar "" .plain tag, reader)
    match reader.next? with
    | some (.scalar text style) => some (.scalar text style tag, reader.advance)
    | some .flowSequenceStart => readFlowItems fuel true reader.advance []
    | some .flowMappingStart => readFlowPairs fuel true reader.advance []
    | some .blockEntry => if place = .pair then readLooseItems fuel reader [] else nothing
    | some .blockSequenceStart =>
      if place = .flow then nothing else readItems fuel reader.advance []
    | some .blockMappingStart =>
      if place = .flow then nothing else readPairs fuel reader.advance []
    | _ => nothing

/-- Reads a node, or the empty node where one of the given tokens comes next. -/
def readUnless : Nat → List Token → Place → Reader → Option (Node × Reader)
  | 0, _, _, _ => none
  | fuel + 1, ends, place, reader =>
    if reader.isAt ends then some (.empty, reader) else readNode fuel place reader

/-- Reads the items of a block sequence, up to its end. -/
def readItems : Nat → Reader → List Node → Option (Node × Reader)
  | 0, _, _ => none
  | fuel + 1, reader, items =>
    match reader.next? with
    | some .blockEntry => do
      let (item, after) ← readUnless fuel [.blockEntry, .blockEnd] .block reader.advance
      readItems fuel after (item :: items)
    | some .blockEnd => some (.sequence items.reverse, reader.advance)
    | _ => none

/-- Reads the items of a sequence that shares the indentation of the mapping around it. -/
def readLooseItems : Nat → Reader → List Node → Option (Node × Reader)
  | 0, _, _ => none
  | fuel + 1, reader, items =>
    match reader.next? with
    | some .blockEntry => do
      let (item, after) ←
        readUnless fuel [.blockEntry, .key, .value, .blockEnd] .block reader.advance
      readLooseItems fuel after (item :: items)
    | _ => some (.sequence items.reverse, reader)

/-- Reads the pairs of a block mapping, up to its end. -/
def readPairs : Nat → Reader → List (Node × Node) → Option (Node × Reader)
  | 0, _, _ => none
  | fuel + 1, reader, pairs =>
    match reader.next? with
    | some .key => do
      let (key, keyed) ← readUnless fuel [.key, .value, .blockEnd] .pair reader.advance
      if keyed.isAt [.value] then
        let (value, after) ← readUnless fuel [.key, .value, .blockEnd] .pair keyed.advance
        readPairs fuel after ((key, value) :: pairs)
      else readPairs fuel keyed ((key, Node.empty) :: pairs)
    | some .blockEnd => some (.mapping pairs.reverse, reader.advance)
    | _ => none

/-- Reads the value of a pair in a flow collection, up to a comma or the given bracket. -/
def readFlowValue : Nat → Token → Reader → Option (Node × Reader)
  | 0, _, _ => none
  | fuel + 1, bracket, reader =>
    if reader.isAt [.value] then readUnless fuel [.flowEntry, bracket] .flow reader.advance
    else some (.empty, reader)

/-- Reads the items of a flow sequence, up to its end. An item may be a single pair. -/
def readFlowItems : Nat → Bool → Reader → List Node → Option (Node × Reader)
  | 0, _, _, _ => none
  | fuel + 1, isFirst, reader, items =>
    if reader.isAt [.flowSequenceEnd] then some (.sequence items.reverse, reader.advance)
    else if !isFirst && !reader.isAt [.flowEntry] then none
    else
      let start := if isFirst then reader else reader.advance
      match start.next? with
      | some .flowSequenceEnd => some (.sequence items.reverse, start.advance)
      | some .key => do
        let keyed := start.advance
        let (key, ended) ←
          if keyed.isAt [.value, .flowEntry, .flowSequenceEnd] then
            some (.empty, keyed.advance)
          else readNode fuel .flow keyed
        let (value, after) ← readFlowValue fuel .flowSequenceEnd ended
        readFlowItems fuel false after (.mapping [(key, value)] :: items)
      | _ => do
        let (item, after) ← readNode fuel .flow start
        readFlowItems fuel false after (item :: items)

/-- Reads the pairs of a flow mapping, up to its end. A key may stand without a value. -/
def readFlowPairs : Nat → Bool → Reader → List (Node × Node) → Option (Node × Reader)
  | 0, _, _, _ => none
  | fuel + 1, isFirst, reader, pairs =>
    if reader.isAt [.flowMappingEnd] then some (.mapping pairs.reverse, reader.advance)
    else if !isFirst && !reader.isAt [.flowEntry] then none
    else
      let start := if isFirst then reader else reader.advance
      match start.next? with
      | some .flowMappingEnd => some (.mapping pairs.reverse, start.advance)
      | some .key => do
        let (key, keyed) ←
          readUnless fuel [.value, .flowEntry, .flowMappingEnd] .flow start.advance
        let (value, after) ← readFlowValue fuel .flowMappingEnd keyed
        readFlowPairs fuel false after ((key, value) :: pairs)
      | _ => do
        let (key, after) ← readNode fuel .flow start
        readFlowPairs fuel false after ((key, Node.empty) :: pairs)

end

/-! ### Documents -/

/-- Reads the directives in front of a document; a version counts once and has to be known. -/
def readDirectives : List Token → Bool → Reader → Option Reader
  | .versionDirective major minor :: rest, hasVersion, reader =>
    if hasVersion || major != 1 || (minor != 1 && minor != 2) then none
    else readDirectives rest true { reader with tokens := rest }
  | .tagDirective handle expansion :: rest, hasVersion, reader =>
    if (reader.handles.lookup handle).isSome then none
    else readDirectives rest hasVersion
      { reader with tokens := rest, handles := (handle, expansion) :: reader.handles }
  | _, _, reader => some reader

/-- Whether a token is a directive. -/
def isDirective : Token → Bool
  | .versionDirective .. | .tagDirective .. => true
  | _ => false

/-- The number of nested steps that is enough for any tree of the tokens. -/
def depthFor (reader : Reader) : Nat :=
  4 * reader.tokens.length + 4

/-- Reads the content of a document that starts with its mark. -/
def readContent (reader : Reader) : Option (Node × Reader) :=
  match reader.next? with
  | none | some .documentStart | some .documentEnd => some (.empty, reader)
  | some token =>
    if isDirective token then some (.empty, reader)
    else readNode (depthFor reader) .block reader

/-- Reads one document. -/
def readDocument (reader : Reader) : Option (Node × Reader) := do
  if reader.next?.any fun token => isDirective token || token == .documentStart then
    let start ← readDirectives reader.tokens false reader
    if start.isAt [.documentStart] then readContent start.advance else none
  else readNode (depthFor reader) .block reader

/-- The document of a text that holds one, or the empty document of a text that holds none. -/
def parse (text : String) : Option Document := do
  let tokens ← tokenize text.toList
  if tokens.isEmpty then return ⟨.empty, []⟩
  else
    let (node, after) ← readDocument { tokens := tokens.toList }
    if after.tokens.all (· == .documentEnd) then return ⟨node, after.anchored⟩ else none

end PanelLink.Yaml
