/-
This file holds the decoder that turns bytes into frames as they arrive. A
sentinel ends the frame before it and starts the next one; a declared length ends
a frame by itself; a frame without one is refused when it outgrows the limit. The
way the bytes are cut into chunks does not matter, and a refused frame never
disturbs the frames after it.

The bytes of a frame that ended by its declared length stay in the buffer until
the next sentinel, although the decoder is idle by then.
-/

import PanelLink.Frame.Reading
import PanelLink.Journal

namespace PanelLink.Frame

open Journal

/-! ### State -/

/-- What the decoder is doing. -/
inductive Phase where
  /-- Waiting for a sentinel; other bytes are dropped. -/
  | idle
  /-- Collecting the body of a frame. -/
  | buffering
  deriving DecidableEq, Repr

/-- The name of a phase. -/
def Phase.name : Phase → String
  | .idle => "Idle"
  | .buffering => "Buffering"

/-- What the decoder has counted so far. A frame has at least one byte, so none of the counts is
greater than the number of bytes that were fed, and counters of 64 bits hold them as long as that
is less than `2 ^ 64`. -/
structure Tally where
  decoded : Nat := 0
  rejected : Nat := 0
  discarded : Nat := 0
  deriving DecidableEq, Repr

/-- The decoder: its phase, the body bytes it holds, the next frame number and its counts. -/
structure Decoder where
  phase : Phase := .idle
  pending : List UInt8 := []
  /-- The number of frames that have ended. Like the counts it is never greater than the number of
  bytes that were fed. -/
  nextId : Nat := 0
  tally : Tally := {}
  deriving DecidableEq, Repr

namespace Decoder

/-- A decoder that has seen nothing. -/
def fresh : Decoder := {}

/-- Whether there is a frame that a sentinel or a flush would end. -/
def hasOpenFrame (decoder : Decoder) : Bool :=
  decoder.phase == .buffering && !decoder.pending.isEmpty

/-! ### Ending a frame -/

/-- Counts the outcome of a frame and moves on to the next frame number. -/
def record (decoder : Decoder) (outcome : Outcome) : Decoder :=
  let tally := decoder.tally
  { decoder with
    nextId := decoder.nextId + 1
    tally :=
      match outcome with
      | .ok _ => { tally with decoded := tally.decoded + 1 }
      | .error _ => { tally with rejected := tally.rejected + 1 } }

/-- What the bytes collected so far read as. -/
def closing (decoder : Decoder) : Outcome :=
  read decoder.nextId decoder.pending

/-- The refusal of a frame that outgrew the limit; it shows the header alone. -/
def oversize (decoder : Decoder) : Outcome :=
  .error ⟨decoder.nextId, .oversized bodyLimit, decoder.pending.take headerLength⟩

/-- Ends the open frame, if there is one, and leaves phase and buffer as they are. -/
def closeOpen (decoder : Decoder) : Decoder × Option Outcome :=
  if decoder.hasOpenFrame then (decoder.record decoder.closing, some decoder.closing)
  else (decoder, none)

/-! ### Taking bytes -/

/-- The length that the collected bytes declare; zero while it is unknown. -/
def declared (pending : List UInt8) : Nat :=
  (pending[2]?.getD 0).toNat

/-- Whether the collected bytes reach exactly to the end that they declare. -/
def isComplete (pending : List UInt8) : Bool :=
  declared pending != 0 && pending.length == declared pending + headerLength

/-- Adds a byte to the body of the frame. -/
def extend (decoder : Decoder) (byte : UInt8) : Decoder × Option Outcome :=
  let longer := { decoder with pending := decoder.pending ++ [byte] }
  if isComplete longer.pending then
    ({ longer.record longer.closing with phase := .idle }, some longer.closing)
  else if bodyLimit < longer.pending.length then
    ({ longer.record longer.oversize with phase := .idle, pending := [] }, some longer.oversize)
  else (longer, none)

/-- Drops a byte that belongs to no frame. -/
def discard (decoder : Decoder) : Decoder :=
  { decoder with tally := { decoder.tally with discarded := decoder.tally.discarded + 1 } }

/-- Takes one byte and returns the outcome of the frame that it ended, if any. -/
def feedByte (decoder : Decoder) (byte : UInt8) : Decoder × Option Outcome :=
  if byte = sentinel then
    let (closed, outcome) := decoder.closeOpen
    ({ closed with phase := .buffering, pending := [] }, outcome)
  else
    match decoder.phase with
    | .idle => (decoder.discard, none)
    | .buffering => decoder.extend byte

/-- Takes a chunk and returns the outcomes of the frames that it ended, in order. -/
def feed (decoder : Decoder) : List UInt8 → Decoder × List Outcome
  | [] => (decoder, [])
  | byte :: rest =>
    let (next, outcome) := decoder.feedByte byte
    let (last, outcomes) := feed next rest
    (last, outcome.toList ++ outcomes)

/-- Ends the open frame without waiting for a sentinel, as at the end of a recording. -/
def flush (decoder : Decoder) : Decoder × Option Outcome :=
  let (closed, outcome) := decoder.closeOpen
  ({ closed with phase := .idle, pending := [] }, outcome)

/-- Goes back to waiting for a sentinel; the bytes held are dropped without a report. -/
def reset (decoder : Decoder) : Decoder :=
  { decoder with phase := .idle, pending := [] }

end Decoder

/-! ### Journal -/

/-- The line for a frame that ended. -/
def Outcome.entry : Outcome → Entry
  | .ok command =>
    ⟨.trace, "Frame " ++ Radix.decimal command.frameId ++ ": " ++ command.kind.name⟩
  | .error rejection => ⟨.warn, rejection.message⟩

namespace Decoder

/-- The lines for a chunk that a decoder in the given state takes. -/
def feedEntries (decoder : Decoder) (chunk : List UInt8) : List Entry :=
  ⟨.trace, "Decoder fed " ++ Radix.decimal chunk.length ++ " bytes in state " ++
    decoder.phase.name⟩ :: (decoder.feed chunk).2.map Outcome.entry

/-- The lines for a reset of a decoder in the given state. -/
def resetEntries (decoder : Decoder) : List Entry :=
  if decoder.pending.isEmpty then []
  else [⟨.debug, "Decoder reset, discarding " ++ Radix.decimal decoder.pending.length ++
    " pending bytes"⟩]

end Decoder

end PanelLink.Frame
