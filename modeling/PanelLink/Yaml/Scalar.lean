/-
This file reads the scalars of a YAML document: plain words, quoted texts and block
texts. A text over several lines is folded: a single break becomes a space, and
further breaks stay. What cannot be read gives nothing.
-/

import PanelLink.Text.Radix
import PanelLink.Yaml.Source
import PanelLink.Yaml.Token

namespace PanelLink.Yaml

/-! ### Gaps between words -/

/-- What stands between two words: spacing on one line, or line breaks. -/
structure Gap where
  spacing : String := ""
  firstBreak : String := ""
  moreBreaks : String := ""
  broken : Bool := false

namespace Gap

/-- The characters a gap contributes to the text. -/
def folded (gap : Gap) : String :=
  if gap.broken then
    if gap.firstBreak.startsWith "\n" then
      if gap.moreBreaks.isEmpty then " " else gap.moreBreaks
    else gap.firstBreak ++ gap.moreBreaks
  else gap.spacing

/-- Adds a line break to a gap. -/
def addBreak (gap : Gap) (character : Char) : Gap :=
  if gap.broken then { gap with moreBreaks := gap.moreBreaks.push character }
  else { gap with spacing := "", firstBreak := String.singleton character, broken := true }

/-- Adds spacing to a gap; at the start of a line it does not count. -/
def addSpacing (gap : Gap) (character : Char) : Gap :=
  if gap.broken then gap else { gap with spacing := gap.spacing.push character }

end Gap

/-- Reads a gap. A tab in the indentation of a continued line is refused, where one is given. -/
def readGap (indentation : Option Nat) : Nat → Source → Gap → Option (Gap × Source)
  | 0, source, gap => some (gap, source)
  | fuel + 1, source, gap =>
    match source.next? with
    | none => some (gap, source)
    | some character =>
      if isSpacing character then
        let misplaced := match indentation with
          | some least => gap.broken && source.column < least && character == '\t'
          | none => false
        if misplaced then none
        else readGap indentation fuel (source.skip 1) (gap.addSpacing character)
      else
        match source.takeBreak? with
        | some (mark, after) => readGap indentation fuel after (gap.addBreak mark)
        | none => some (gap, source)

/-! ### Plain scalars -/

/-- The characters that structure a flow collection. -/
def isFlowMark (character : Char) : Bool :=
  character == ',' || character == '[' || character == ']' || character == '\x7b' ||
    character == '\x7d'

/-- Reads one word of a plain scalar. -/
def readPlainWord (inFlow : Bool) : Nat → Source → String → Option (String × Source)
  | 0, source, word => some (word, source)
  | fuel + 1, source, word =>
    match source.next? with
    | none => some (word, source)
    | some character =>
      let following := source.rest[1]?
      if isSpacing character || isBreak character then some (word, source)
      else if inFlow && character == ':' &&
          following.any (fun mark => isFlowMark mark || mark == '?') then none
      else if character == ':' && source.wordEndsAt 1 then some (word, source)
      else if inFlow && isFlowMark character then some (word, source)
      else readPlainWord inFlow fuel (source.skip 1) (word.push character)

/-- Reads a plain scalar from its first word on. The flag tells whether it ended after a
line break, so that a key may follow. -/
def readPlainWords (inFlow : Bool) (least : Nat) :
    Nat → Source → String → Gap → Option (String × Bool × Source)
  | 0, _, _, _ => none
  | fuel + 1, source, text, gap =>
    if source.atDocumentBoundary || source.startsWith '#' then some (text, gap.broken, source)
    else do
      let (word, after) ← readPlainWord inFlow source.rest.length source ""
      let longer := if word.isEmpty then text else text ++ gap.folded ++ word
      let stillBroken := word.isEmpty && gap.broken
      let goesOn := after.next?.any fun character => isSpacing character || isBreak character
      if goesOn then
        let (wider, reached) ← readGap (some least) after.rest.length after
          (if word.isEmpty then gap else {})
        if !inFlow && reached.column < least then some (longer, wider.broken, reached)
        else readPlainWords inFlow least fuel reached longer wider
      else some (longer, stillBroken, after)

/-- Reads a plain scalar whose continuation lines are indented by at least the given depth. -/
def readPlain (inFlow : Bool) (least : Nat) (source : Source) :
    Option (String × Bool × Source) :=
  readPlainWords inFlow least (source.rest.length + 1) source "" {}

/-! ### Quoted scalars -/

/-- The character of a one-letter escape. -/
def shortEscape? : Char → Option Char
  | '0' => some '\x00'
  | 'a' => some '\x07'
  | 'b' => some '\x08'
  | 't' | '\t' => some '\t'
  | 'n' => some '\n'
  | 'v' => some '\x0b'
  | 'f' => some '\x0c'
  | 'r' => some '\r'
  | 'e' => some '\x1b'
  | ' ' => some ' '
  | '"' => some '"'
  | '/' => some '/'
  | '\\' => some '\\'
  | 'N' => some (Char.ofNat 0x85)
  | '_' => some (Char.ofNat 0xa0)
  | 'L' => some (Char.ofNat 0x2028)
  | 'P' => some (Char.ofNat 0x2029)
  | _ => none

/-- The number of hexadecimal digits after a letter that escapes a code point. -/
def escapeWidth? : Char → Option Nat
  | 'x' => some 2
  | 'u' => some 4
  | 'U' => some 8
  | _ => none

/-- Reads an escape from behind the backslash on. -/
def readEscape (source : Source) : Option (Char × Source) := do
  let letter ← source.next?
  match escapeWidth? letter with
  | none => return (← shortEscape? letter, source.skip 1)
  | some width =>
    let numeral := (source.rest.drop 1).take width
    let code ← Radix.value? 16 numeral
    if numeral.length == width && (code < 0xd800 || (0xdfff < code && code ≤ 0x10ffff)) then
      return (Char.ofNat code, source.skip (1 + width))
    else none

/-- Reads the characters of a quoted scalar up to spacing, a break or the closing mark. The
flag tells whether an escaped line break ended them. -/
def readQuotedRun (mark : Char) : Nat → Source → String → Option (String × Bool × Source)
  | 0, source, text => some (text, false, source)
  | fuel + 1, source, text =>
    match source.next? with
    | none => some (text, false, source)
    | some character =>
      if isSpacing character || isBreak character then some (text, false, source)
      else if mark == '\x27' && character == mark && source.rest[1]? == some mark then
        readQuotedRun mark fuel (source.skip 2) (text.push mark)
      else if character == mark then some (text, false, source)
      else if mark == '\x22' && character == '\\' then
        match (source.skip 1).takeBreak? with
        | some (_, after) => some (text, true, after)
        | none => do
          let (escaped, after) ← readEscape (source.skip 1)
          readQuotedRun mark fuel after (text.push escaped)
      else readQuotedRun mark fuel (source.skip 1) (text.push character)

/-- Reads a quoted scalar from behind its opening mark on. -/
def readQuotedRuns (mark : Char) : Nat → Source → String → Option (String × Source)
  | 0, _, _ => none
  | fuel + 1, source, text =>
    if source.atDocumentBoundary || source.rest.isEmpty then none
    else do
      let (longer, escapedBreak, after) ← readQuotedRun mark source.rest.length source text
      if after.startsWith mark then some (longer, after.skip 1)
      else
        let (gap, reached) ← readGap none after.rest.length after { broken := escapedBreak }
        readQuotedRuns mark fuel reached (longer ++ gap.folded)

/-- Reads a quoted scalar; the mark is the next character. -/
def readQuoted (mark : Char) (source : Source) : Option (String × Source) :=
  readQuotedRuns mark (source.rest.length + 1) (source.skip 1) ""

/-! ### Block scalars -/

/-- What happens to the line breaks at the end of a block scalar. -/
inductive Chomping where
  | clip
  | strip
  | keep
  deriving DecidableEq, Repr

/-- Reads the sign of a block header, if there is one. -/
def readChomping (source : Source) : Option Chomping × Source :=
  if source.startsWith '+' then (some .keep, source.skip 1)
  else if source.startsWith '-' then (some .strip, source.skip 1)
  else (none, source)

/-- Reads the digit of a block header, if there is one; zero is refused. -/
def readDepth (source : Source) : Option (Option Nat × Source) :=
  match source.next? with
  | some character =>
    match Radix.digitValue? 10 character with
    | some 0 => none
    | some depth => some (some depth, source.skip 1)
    | none => some (none, source)
  | none => some (none, source)

/-- Reads the sign and the digit of a block header, in either order. -/
def readBlockHeader (source : Source) : Option (Chomping × Option Nat × Source) :=
  match readChomping source with
  | (some chomping, after) => do
    let (depth, reached) ← readDepth after
    return (chomping, depth, reached)
  | (none, _) => do
    let (depth, after) ← readDepth source
    if depth.isSome then
      let (chomping, reached) := readChomping after
      return (chomping.getD .clip, depth, reached)
    else return (.clip, none, after)

/-- Reads the empty lines of a block scalar and the indentation after them. The deepest
indentation seen comes along. -/
def readBlockBreaks (depth : Option Nat) :
    Nat → Source → String → Nat → Option (String × Nat × Source)
  | 0, source, breaks, deepest => some (breaks, deepest, source)
  | fuel + 1, source, breaks, deepest =>
    let limit := (depth.map fun columns => columns - source.column).getD source.rest.length
    let indented := source.skip ((source.rest.take limit).takeWhile (· == ' ')).length
    let deeper := max deepest indented.column
    let misplaced := indented.startsWith '\t' &&
      match depth with
      | some columns => decide (indented.column < columns)
      | none => true
    if misplaced then none
    else
      match indented.takeBreak? with
      | some (mark, after) => readBlockBreaks depth fuel after (breaks.push mark) deeper
      | none => some (breaks, deeper, indented)

/-- The break in front of a line of a block scalar, folded into a space where it may be. -/
def joinBreaks (literal besideSpacing : Bool) (firstBreak moreBreaks : String) : String :=
  if !literal && firstBreak.startsWith "\n" && !besideSpacing then
    if moreBreaks.isEmpty then " " else moreBreaks
  else firstBreak ++ moreBreaks

/-- Reads the lines of a block scalar. The last break and the breaks after it come along. -/
def readBlockLines (literal : Bool) (depth : Nat) :
    Nat → Source → String → Bool → String → String → Option (String × String × String × Source)
  | 0, source, text, _, firstBreak, moreBreaks => some (text, firstBreak, moreBreaks, source)
  | fuel + 1, source, text, afterSpacing, firstBreak, moreBreaks =>
    if source.column == depth && !source.rest.isEmpty then do
      let spaced := source.next?.any isSpacing
      let joined := text ++ joinBreaks literal (afterSpacing || spaced) firstBreak moreBreaks
      let (line, ended) := source.takeWhile fun character => !isBreak character
      let (lineBreak, after) := match ended.takeBreak? with
        | some (mark, next) => (String.singleton mark, next)
        | none => ("", ended)
      let (breaks, _, reached) ← readBlockBreaks (some depth) after.rest.length.succ after "" 0
      readBlockLines literal depth fuel reached (joined ++ String.ofList line) spaced lineBreak
        breaks
    else some (text, firstBreak, moreBreaks, source)

/-- Reads a block scalar from behind its mark on, below the given indentation. -/
def readBlock (literal : Bool) (parent : Option Nat) (source : Source) :
    Option (String × Source) := do
  let (chomping, increment, headed) ← readBlockHeader source
  let ended := (headed.takeWhile isSpacing).2.skipComment
  if !ended.lineEnds then none
  else
    let started := match ended.takeBreak? with
      | some (_, after) => after
      | none => ended
    let given := increment.map fun columns => parent.getD 0 + columns
    let (breaks, deepest, reached) ← readBlockBreaks given started.rest.length.succ started "" 0
    let least := match parent with
      | some columns => columns + 1
      | none => 0
    let depth := given.getD (max deepest (max least 1))
    let (text, lastBreak, moreBreaks, rest) ←
      readBlockLines literal depth (reached.rest.length + 1) reached "" false "" breaks
    let tail := match chomping with
      | .strip => ""
      | .clip => lastBreak
      | .keep => lastBreak ++ moreBreaks
    return (text ++ tail, rest)

end PanelLink.Yaml
