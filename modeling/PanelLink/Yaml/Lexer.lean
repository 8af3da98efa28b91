/-
This file cuts a YAML document into tokens. Block collections begin and end with
the indentation of their lines. A key of one line is known as a key only when its
colon arrives, so the place of every possible key is remembered and the key token is
put there afterwards. What cannot be cut gives nothing.
-/

import PanelLink.Yaml.Scalar

namespace PanelLink.Yaml

/-! ### State -/

/-- A place where a key may have started. -/
structure KeyPlace where
  /-- How many tokens stood before it. -/
  tokens : Nat
  index : Nat
  line : Nat
  column : Nat
  /-- Whether only a key can stand here. -/
  isRequired : Bool

/-- The longest key on one line, in bytes. -/
def keyLimit : Nat := 1024

/-- The state of the lexer. Flow collections and block collections each form a stack. -/
structure Lexer where
  source : Source
  tokens : Array Token := #[]
  /-- The column of the innermost block collection. -/
  indent : Option Nat := none
  /-- The columns around it, from the inside out. -/
  outer : List (Option Nat) := []
  /-- The possible key at the present level of flow collections. -/
  keyPlace : Option KeyPlace := none
  /-- The possible keys at the levels around it, from the inside out. -/
  outerKeys : List (Option KeyPlace) := []
  /-- Whether a key may start here. -/
  keyAllowed : Bool := true

namespace Lexer

/-- Whether the lexer is inside a flow collection. -/
def inFlow (lexer : Lexer) : Bool :=
  !lexer.outerKeys.isEmpty

/-- Appends a token. -/
def emit (lexer : Lexer) (token : Token) : Lexer :=
  { lexer with tokens := lexer.tokens.push token }

/-- Inserts a token in front of the tokens from a given place on. -/
def insert (lexer : Lexer) (place : Nat) (token : Token) : Lexer :=
  { lexer with tokens := lexer.tokens.insertIdxIfInBounds place token }

/-- Moves the source on by characters of the present line. -/
def skip (lexer : Lexer) (count : Nat) : Lexer :=
  { lexer with source := lexer.source.skip count }

/-! ### Indentation -/

/-- Whether a column lies deeper than the innermost block collection. -/
def isDeeper (lexer : Lexer) (column : Nat) : Bool :=
  match lexer.indent with
  | none => true
  | some innermost => innermost < column

/-- Opens a block collection at a column, unless one is open there; its token goes to the
given place. -/
def openBlock (lexer : Lexer) (column : Nat) (place : Nat) (token : Token) : Lexer :=
  if !lexer.inFlow && lexer.isDeeper column then
    { lexer.insert place token with
      outer := lexer.indent :: lexer.outer
      indent := some column }
  else lexer

/-- Closes the block collections that are deeper than a column; without a column, all. -/
def closeBlocks (column : Option Nat) : List (Option Nat) → Lexer → Lexer
  | [], lexer => lexer
  | around :: rest, lexer =>
    let isOver := match lexer.indent, column with
      | none, _ => false
      | some _, none => true
      | some innermost, some least => least < innermost
    if isOver then
      closeBlocks column rest { lexer.emit .blockEnd with indent := around, outer := rest }
    else lexer

/-- Closes the block collections that end before the given column. -/
def dedent (lexer : Lexer) (column : Option Nat) : Lexer :=
  if lexer.inFlow then lexer else closeBlocks column lexer.outer lexer

/-! ### Possible keys -/

/-- Gives up the possible key of this level; a required key cannot be given up. -/
def dropKey (lexer : Lexer) : Option Lexer :=
  match lexer.keyPlace with
  | some place => if place.isRequired then none else some { lexer with keyPlace := none }
  | none => some lexer

/-- Remembers that a key may start at the next token. -/
def markKey (lexer : Lexer) : Option Lexer :=
  if lexer.keyAllowed then do
    let dropped ← lexer.dropKey
    let source := lexer.source
    return { dropped with
      keyPlace := some {
        tokens := lexer.tokens.size
        index := source.index
        line := source.line
        column := source.column
        isRequired := !lexer.inFlow && lexer.indent == some source.column } }
  else some lexer

/-- Whether a possible key is too far behind to be one. -/
def isStale (source : Source) (place : KeyPlace) : Bool :=
  place.line < source.line || place.index + keyLimit < source.index

/-- Forgets a possible key that is stale; a required one must not be. -/
def forgetStale (source : Source) : Option KeyPlace → Option (Option KeyPlace)
  | none => some none
  | some place =>
    if isStale source place then if place.isRequired then none else some none
    else some (some place)

/-- Forgets the stale keys of all levels. -/
def forgetAllStale (lexer : Lexer) : Option Lexer := do
  let keyPlace ← forgetStale lexer.source lexer.keyPlace
  let outerKeys ← lexer.outerKeys.mapM (forgetStale lexer.source)
  return { lexer with keyPlace, outerKeys }

/-! ### Between tokens -/

/-- Skips spacing, comments and line breaks. -/
def skipGaps : Nat → Lexer → Lexer
  | 0, lexer => lexer
  | fuel + 1, lexer =>
    let source := lexer.source
    let marked := if source.column == 0 && source.startsWith '\ufeff' then source.skip 1
      else source
    let tabs := lexer.inFlow || !lexer.keyAllowed
    let spaced := (marked.takeWhile fun character =>
      character == ' ' || (tabs && character == '\t')).2.skipComment
    match spaced.takeBreak? with
    | some (_, after) =>
      skipGaps fuel { lexer with source := after, keyAllowed := lexer.keyAllowed || !lexer.inFlow }
    | none => { lexer with source := spaced }

/-! ### Directives, anchors and tags -/

/-- Skips the rest of a line that may hold only spacing and a comment. -/
def endLine (source : Source) : Option Source :=
  let ended := (source.takeWhile isSpacing).2.skipComment
  if ended.rest.isEmpty then some ended
  else ended.takeBreak?.map Prod.snd

/-- Reads a part of a version number. -/
def readVersionPart (source : Source) : Option (Nat × Source) :=
  let (digits, after) := source.takeWhile Char.isDigit
  if 9 < digits.length then none
  else (Radix.value? 10 digits).map fun number => (number, after)

/-- Reads the numbers of a version directive. -/
def readVersion (source : Source) : Option (Token × Source) := do
  let (major, dotted) ← readVersionPart (source.takeWhile isSpacing).2
  if !dotted.startsWith '.' then none
  else
    let (minor, after) ← readVersionPart (dotted.skip 1)
    return (.versionDirective major minor, after)

/-- Whether the character may be part of a tag; commas and brackets count only between
angle brackets. -/
def isTagCharacter (verbatim : Bool) (character : Char) : Bool :=
  isWordCharacter character || ";/?:@&=+$.!~*'()".toList.contains character ||
    (verbatim && ",[]".toList.contains character)

/-- The number of bytes that follow a byte which starts a character. -/
def followers? (byte : UInt8) : Option Nat :=
  if byte < 0x80 then some 0
  else if byte < 0xc0 then none
  else if byte < 0xe0 then some 1
  else if byte < 0xf0 then some 2
  else if byte < 0xf8 then some 3
  else none

/-- Reads one escaped byte. -/
def readEscapedByte (source : Source) : Option (UInt8 × Source) :=
  match source.rest with
  | '%' :: high :: low :: _ =>
    (Radix.value? 16 [high, low]).map fun code => (UInt8.ofNat code, source.skip 3)
  | _ => none

/-- Reads a number of escaped bytes that continue a character. -/
def readFollowers : Nat → Source → Option (List UInt8 × Source)
  | 0, source => some ([], source)
  | count + 1, source => do
    let (byte, after) ← readEscapedByte source
    if byte < 0x80 || 0xc0 ≤ byte then none
    else
      let (rest, reached) ← readFollowers count after
      return (byte :: rest, reached)

/-- Reads the escaped bytes of one character. -/
def readEscapedCharacter (source : Source) : Option (List UInt8 × Source) := do
  let (byte, after) ← readEscapedByte source
  let (rest, reached) ← readFollowers (← followers? byte) after
  return (byte :: rest, reached)

/-- Reads the suffix of a tag. -/
def readTagText (verbatim : Bool) : Nat → Source → Option (TagText × Source)
  | 0, source => some ([], source)
  | fuel + 1, source =>
    match source.next? with
    | none => some ([], source)
    | some character =>
      if character == '%' then do
        let (bytes, after) ← readEscapedCharacter source
        let (rest, reached) ← readTagText verbatim fuel after
        return (bytes ++ rest, reached)
      else if isTagCharacter verbatim character then do
        let (rest, reached) ← readTagText verbatim fuel (source.skip 1)
        return (UInt8.ofNat character.toNat :: rest, reached)
      else some ([], source)

/-- The text of a tag up to a byte of zero, which ends it. -/
def upToZero (text : TagText) : TagText :=
  text.takeWhile (· != 0)

/-- Reads a handle of a tag: an exclamation mark, word characters, and perhaps another mark. -/
def readHandle (source : Source) : Option (String × Source) :=
  if source.startsWith '!' then
    let (word, after) := (source.skip 1).takeWhile isWordCharacter
    let handle := String.ofList ('!' :: word)
    if after.startsWith '!' then some (handle.push '!', after.skip 1) else some (handle, after)
  else none

/-- Reads the parts of a tag directive. -/
def readTagDirective (source : Source) : Option (Token × Source) := do
  let (handle, after) ← readHandle (source.takeWhile isSpacing).2
  if (handle != "!" && !(handle.length > 1 && handle.endsWith "!")) ||
      !after.next?.any isSpacing then none
  else
    let start := (after.takeWhile isSpacing).2
    let (expansion, reached) ← readTagText true start.rest.length start
    if expansion.isEmpty || !reached.wordEndsAt 0 then none
    else return (.tagDirective handle (upToZero expansion), reached)

/-- Reads a directive; the percent sign is the next character. -/
def readDirective (source : Source) : Option (Token × Source) := do
  let (name, after) := (source.skip 1).takeWhile isWordCharacter
  if !after.wordEndsAt 0 then none
  else
    let (token, reached) ←
      if name == "YAML".toList then readVersion after
      else if name == "TAG".toList then readTagDirective after
      else none
    return (token, ← endLine reached)

/-- Reads the name of an anchor or an alias from behind its mark on. -/
def readAnchorName (source : Source) : Option (String × Source) :=
  let (name, after) := (source.skip 1).takeWhile isWordCharacter
  let isEnded := after.wordEndsAt 0 || after.next?.any ("?:,]\x7d%@\x60".toList.contains ·)
  if name.isEmpty || !isEnded then none else some (String.ofList name, after)

/-- Reads the parts of a tag that is not between angle brackets. -/
def readShortTag (source : Source) : Option (TagName × Source) := do
  let (handle, after) ← readHandle source
  if handle.length > 1 && handle.endsWith "!" then
    let (suffix, reached) ← readTagText false after.rest.length after
    if suffix.isEmpty then none else return (⟨handle, upToZero suffix⟩, reached)
  else
    let (more, reached) ← readTagText false after.rest.length after
    let suffix := upToZero ((TagText.ofAscii handle).drop 1 ++ more)
    return (if suffix.isEmpty then ⟨"", TagText.ofAscii "!"⟩ else ⟨"!", suffix⟩, reached)

/-- Reads a tag that is between angle brackets. -/
def readVerbatimTag (source : Source) : Option (TagName × Source) := do
  let start := source.skip 2
  let (suffix, after) ← readTagText true start.rest.length start
  if suffix.isEmpty || !after.startsWith '>' then none
  else return (⟨"", upToZero suffix⟩, after.skip 1)

/-- Reads a tag; the exclamation mark is the next character. -/
def readTag (inFlow : Bool) (source : Source) : Option (TagName × Source) := do
  let (name, after) ←
    if source.rest[1]? == some '<' then readVerbatimTag source else readShortTag source
  if after.wordEndsAt 0 || (inFlow && after.startsWith ',') then return (name, after) else none

/-! ### Tokens -/

/-- Takes a directive. -/
def takeDirective (lexer : Lexer) : Option Lexer := do
  let closed ← (lexer.dedent none).dropKey
  let (token, source) ← readDirective closed.source
  return { closed.emit token with source, keyAllowed := false }

/-- Takes a mark between documents. -/
def takeDocumentMark (lexer : Lexer) (token : Token) : Option Lexer := do
  let closed ← (lexer.dedent none).dropKey
  return { (closed.emit token).skip 3 with keyAllowed := false }

/-- Takes the opening bracket of a flow collection. -/
def openFlow (lexer : Lexer) (token : Token) : Option Lexer := do
  let marked ← lexer.markKey
  return { (marked.emit token).skip 1 with
    outerKeys := marked.keyPlace :: marked.outerKeys
    keyPlace := none
    keyAllowed := true }

/-- Takes the closing bracket of a flow collection. -/
def closeFlow (lexer : Lexer) (token : Token) : Option Lexer := do
  let dropped ← lexer.dropKey
  let closed := match dropped.outerKeys with
    | place :: around => { dropped with keyPlace := place, outerKeys := around }
    | [] => dropped
  return { (closed.emit token).skip 1 with keyAllowed := false }

/-- Takes the comma between items of a flow collection. -/
def takeComma (lexer : Lexer) : Option Lexer := do
  let dropped ← lexer.dropKey
  return { (dropped.emit .flowEntry).skip 1 with keyAllowed := true }

/-- Takes the dash in front of an item of a block sequence. -/
def takeDash (lexer : Lexer) : Option Lexer := do
  if !lexer.inFlow && !lexer.keyAllowed then none
  else
    let opened := lexer.openBlock lexer.source.column lexer.tokens.size .blockSequenceStart
    let dropped ← opened.dropKey
    return { (dropped.emit .blockEntry).skip 1 with keyAllowed := true }

/-- Takes the question mark in front of a key. -/
def takeQuestion (lexer : Lexer) : Option Lexer := do
  if !lexer.inFlow && !lexer.keyAllowed then none
  else
    let opened := lexer.openBlock lexer.source.column lexer.tokens.size .blockMappingStart
    let dropped ← opened.dropKey
    return { (dropped.emit .key).skip 1 with keyAllowed := !lexer.inFlow }

/-- Takes the colon between a key and its value. -/
def takeColon (lexer : Lexer) : Option Lexer :=
  match lexer.keyPlace with
  | some place =>
    let keyed := (lexer.insert place.tokens .key).openBlock place.column place.tokens
      .blockMappingStart
    some { (keyed.emit .value).skip 1 with keyPlace := none, keyAllowed := false }
  | none =>
    if !lexer.inFlow && !lexer.keyAllowed then none
    else
      let opened := lexer.openBlock lexer.source.column lexer.tokens.size .blockMappingStart
      some { (opened.emit .value).skip 1 with keyAllowed := !lexer.inFlow }

/-- Takes an anchor or an alias. -/
def takeAnchor (lexer : Lexer) (token : String → Token) : Option Lexer := do
  let marked ← lexer.markKey
  let (name, source) ← readAnchorName lexer.source
  return { marked.emit (token name) with source, keyAllowed := false }

/-- Takes a tag. -/
def takeTag (lexer : Lexer) : Option Lexer := do
  let marked ← lexer.markKey
  let (name, source) ← readTag lexer.inFlow lexer.source
  return { marked.emit (.tag name) with source, keyAllowed := false }

/-- Takes a block scalar. -/
def takeBlock (lexer : Lexer) (style : ScalarStyle) : Option Lexer := do
  let dropped ← lexer.dropKey
  let (text, source) ← readBlock (style == .literal) lexer.indent (lexer.source.skip 1)
  return { dropped.emit (.scalar text style) with source, keyAllowed := true }

/-- Takes a quoted scalar. -/
def takeQuoted (lexer : Lexer) (mark : Char) : Option Lexer := do
  let marked ← lexer.markKey
  let (text, source) ← readQuoted mark lexer.source
  return { marked.emit (.scalar text .quoted) with source, keyAllowed := false }

/-- Takes a plain scalar. A key may follow one that ended with a line. -/
def takePlain (lexer : Lexer) : Option Lexer := do
  let marked ← lexer.markKey
  let least := match lexer.indent with
    | some column => column + 1
    | none => 0
  let (text, lineEnded, source) ← readPlain lexer.inFlow least lexer.source
  return { marked.emit (.scalar text .plain) with source, keyAllowed := lineEnded }

/-- The characters that start a token of their own, or none at all. -/
def indicators : List Char :=
  "-?:,[]\x7b\x7d#&*!|>\x27\x22%@\x60".toList

/-- Whether a plain scalar starts here. -/
def startsPlain (lexer : Lexer) (character : Char) : Bool :=
  let source := lexer.source
  let spacingFollows := source.rest[1]?.any isSpacing
  !(isSpacing character || isBreak character || indicators.contains character) ||
    (character == '-' && !spacingFollows) ||
    (!lexer.inFlow && (character == '?' || character == ':') && !source.wordEndsAt 1)

/-- Takes the token that starts with the given character. -/
def takeAt (lexer : Lexer) (character : Char) : Option Lexer :=
  let source := lexer.source
  let alone := source.wordEndsAt 1
  if source.column == 0 && character == '%' then lexer.takeDirective
  else if source.atDocumentMark '-' then lexer.takeDocumentMark .documentStart
  else if source.atDocumentMark '.' then lexer.takeDocumentMark .documentEnd
  else if character == '[' then lexer.openFlow .flowSequenceStart
  else if character == '\x7b' then lexer.openFlow .flowMappingStart
  else if character == ']' then lexer.closeFlow .flowSequenceEnd
  else if character == '\x7d' then lexer.closeFlow .flowMappingEnd
  else if character == ',' then lexer.takeComma
  else if character == '-' && alone then lexer.takeDash
  else if character == '?' && (lexer.inFlow || alone) then lexer.takeQuestion
  else if character == ':' && (lexer.inFlow || alone) then lexer.takeColon
  else if character == '*' then lexer.takeAnchor .alias
  else if character == '&' then lexer.takeAnchor .anchor
  else if character == '!' then lexer.takeTag
  else if character == '|' && !lexer.inFlow then lexer.takeBlock .literal
  else if character == '>' && !lexer.inFlow then lexer.takeBlock .folded
  else if character == '\x27' || character == '\x22' then lexer.takeQuoted character
  else if lexer.startsPlain character then lexer.takePlain
  else none

/-- Takes tokens up to the end of the text. -/
def takeAll : Nat → Lexer → Option (Array Token)
  | 0, _ => none
  | fuel + 1, lexer => do
    let gapless := skipGaps (lexer.source.rest.length + 1) lexer
    let current ← gapless.forgetAllStale
    match current.source.next? with
    | some character =>
      takeAll fuel (← (current.dedent (some current.source.column)).takeAt character)
    | none => return (← (current.dedent none).dropKey).tokens

end Lexer

/-- The tokens of a document. -/
def tokenize (text : List Char) : Option (Array Token) :=
  if text.all isAllowed then
    Lexer.takeAll (text.length + 1) { source := { rest := text } }
  else none

end PanelLink.Yaml
