/-
This file holds the link that plays a capture back: the recorded bytes in chunks of one
size, the last one possibly shorter. With a pause between chunks the first chunk is due
at the first read, and a ticker paces the others. Bytes written to it are counted and
go nowhere. A closed replay neither reads nor writes.
-/

import PanelLink.Link.Basic
import PanelLink.Settings.Basic
import PanelLink.Timing.Ticker

namespace PanelLink

open Journal Timing

/-- A capture being played back. -/
structure Replay where
  data : List UInt8
  /-- The number of bytes handed out. -/
  position : Nat := 0
  chunkSize : Nat
  /-- The pause between chunks in nanoseconds. -/
  period? : Option Nat
  /-- The ticker for the pauses, from the first read on. -/
  ticker? : Option Ticker := none
  /-- The number of bytes written. A counter of 64 bits holds it modulo `2 ^ 64`. -/
  written : Nat := 0
  closed : Bool := false
  name : String := "replay"
  deriving DecidableEq, Repr

namespace Replay

/-- The replay of a capture; a chunk size of zero counts as one. -/
def ofBytes (data : List UInt8) (playback : Settings.Playback) : Replay :=
  { data, chunkSize := max playback.chunkSize 1, period? := playback.period? }

/-- The number of bytes still to come. -/
def remaining (replay : Replay) : Nat :=
  replay.data.length - replay.position

/-- The number of chunks of the whole capture. -/
def totalChunks (replay : Replay) : Nat :=
  (replay.data.length + (replay.chunkSize - 1)) / replay.chunkSize

/-- The fault of using a closed replay. -/
def closedFault (operation : LinkOperation) : Fault :=
  .link operation "replay is closed" none

/-- A line about a replay. -/
def entry (replay : Replay) (level : Level) (text : String) : Entry :=
  ⟨level, replay.name ++ ": " ++ text⟩

/-! ### Operations -/

/-- Hands out the next chunk. -/
def handOut (replay : Replay) : Performed Replay Reading :=
  let chunk := (replay.data.drop replay.position).take replay.chunkSize
  let next := { replay with position := replay.position + chunk.length }
  ⟨next, .chunk chunk,
    [replay.entry .trace ("chunk of " ++ Radix.decimal chunk.length ++ " bytes, " ++
      Radix.decimal next.remaining ++ " remaining")]⟩

/-- Hands out the next chunk if its pause is over. -/
def paced [Timer] (replay : Replay) (period now : Nat) : Performed Replay Reading :=
  let ticker := replay.ticker?.getD (Ticker.start period now)
  match ticker.tick? now with
  | some next => handOut { replay with ticker? := some next }
  | none => ⟨{ replay with ticker? := some ticker }, .waiting, []⟩

/-- Asks for the next chunk. -/
def read [Timer] (replay : Replay) (now : Nat) : Performed Replay Reading :=
  if replay.closed then ⟨replay, .failed (closedFault .reading), []⟩
  else if replay.data.length ≤ replay.position then
    ⟨replay, .finished, [replay.entry .debug "reached end of capture"]⟩
  else
    match replay.period? with
    | none => replay.handOut
    | some period => replay.paced period now

/-- Counts the bytes. -/
def write (replay : Replay) (bytes : List UInt8) : Performed Replay (Except Fault Unit) :=
  if replay.closed then ⟨replay, .error (closedFault .writing), []⟩
  else ⟨{ replay with written := replay.written + bytes.length }, .ok (), []⟩

/-- Closes the replay. -/
def close (replay : Replay) : Performed Replay (Except Fault Unit) :=
  if replay.closed then ⟨replay, .ok (), []⟩
  else
    ⟨{ replay with closed := true }, .ok (),
      [replay.entry .debug ("closed at byte " ++ Radix.decimal replay.position ++ "/" ++
        Radix.decimal replay.data.length)]⟩

/-- The moment the next chunk is due, while chunks are paced. -/
def wakeAt? [Timer] (replay : Replay) : Option Nat :=
  replay.ticker?.map Ticker.grantedFrom

instance [Timer] : Link Replay where
  name := Replay.name
  read := read
  write := write
  close := close
  wakeAt? := wakeAt?
  backlog := remaining

/-! ### Captures in files -/

/-- The replay of a capture file, under the name of its path. -/
def ofFile (path : String) (contents : Except IoFailure (List UInt8))
    (playback : Settings.Playback) : Except Fault Replay :=
  match contents with
  | .ok data => .ok { ofBytes data playback with name := path }
  | .error failure => .error (.file path failure)

/-- The lines for opening a capture file. -/
def openedEntries (replay : Replay) : List Entry :=
  [⟨.info, "Opened capture " ++ replay.name ++ ": " ++ Radix.decimal replay.data.length ++
    " bytes"⟩]

end Replay

end PanelLink
