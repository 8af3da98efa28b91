/-
This file holds the read loop, which owns the link, the decoder and the panel of a
session. The loop makes one turn after the other. In each turn it attends to one
thing: the cancellation first, then the oldest request for a reset, then the link. A
chunk is decoded and dispatched as a whole and then acknowledged with one byte. The
loop ends when it is cancelled or when the link ends or fails; it then closes the link
once and makes no more turns.

Whatever a turn does to the outside is an effect, and the effects are in the order in
which they happen.
-/

import PanelLink.Display.Panel
import PanelLink.Frame.Decoder
import PanelLink.Link.Basic
import PanelLink.Session.Event
import PanelLink.Settings.Basic

namespace PanelLink

open Journal

/-! ### Effects -/

/-- What a read loop does to the outside. -/
inductive Effect where
  /-- A line for the journal. -/
  | note (entry : Entry)
  /-- Viewers see a new state of the panel. -/
  | display (snapshot : Snapshot)
  /-- Subscribers get an event. -/
  | publish (event : Event)
  /-- Bytes are written to the link. -/
  | send (bytes : List UInt8)
  /-- The link is closed. -/
  | release
  /-- The session has ended. -/
  | conclude (ending : Ending)
  deriving DecidableEq, Repr

/-- The effects that leave lines in the journal. -/
def Effect.notes (entries : List Entry) : List Effect :=
  entries.map .note

/-- The line of an effect, if it leaves one. -/
def Effect.entry? : Effect → Option Entry
  | .note entry => some entry
  | _ => none

/-- The event of an effect, if it publishes one. -/
def Effect.event? : Effect → Option Event
  | .publish event => some event
  | _ => none

/-! ### State -/

/-- A read loop. -/
structure ReadLoop (L : Type) where
  link : L
  panel : Panel
  decoder : Frame.Decoder := Frame.Decoder.fresh
  ackByte : UInt8
  /-- The state of the panel that viewers see. -/
  shown : Snapshot
  /-- The number of chunks received. -/
  chunks : Nat := 0
  /-- Whether the loop has begun to run. -/
  started : Bool := false
  ending? : Option Ending := none

/-- What a read loop attends to in one turn. -/
inductive Turn where
  | cancellation
  | resetRequest
  | reading (reading : Reading)
  deriving DecidableEq, Repr

namespace ReadLoop

variable {L : Type} [Link L]

/-- A read loop over a link, with a fresh panel. -/
def start (link : L) (settings : Settings) : ReadLoop L :=
  let blank := Panel.blank settings.display.geometry
  let panel := (blank.setResetOnClear settings.display.resetOnClear).listen "viewers"
  { link, panel, ackByte := settings.ackByte, shown := panel.snapshot }

/-! ### Frames -/

/-- Takes over a changed panel and shows viewers what its listener was told. -/
def redraw (loop : ReadLoop L) (panel : Panel) (notices : List Notice) :
    ReadLoop L × List Effect :=
  let shown := (notices.getLast?.map Notice.snapshot).getD loop.shown
  ({ loop with panel, shown }, notices.map fun notice => .display notice.snapshot)

/-- The line for a message of the device. -/
def messageEntry (command : Command) : Entry :=
  let level :=
    match command.payload with
    | .message (.text _ .error) => Level.warn
    | _ => Level.info
  ⟨level, "Device: " ++ command.summary ++ " frame=" ++ Radix.decimal command.frameId⟩

/-- Has the panel draw an order. -/
def draw (loop : ReadLoop L) (command : Command) : ReadLoop L × List Effect :=
  let notes := Effect.notes (loop.panel.applyEntries command)
  match loop.panel.apply command with
  | .ok (panel, notices) =>
    let (redrawn, effects) := loop.redraw panel notices
    (redrawn, notes ++ effects ++ [.publish (.drawn command redrawn.shown)])
  | .error _ => (loop, notes ++ [.publish (.unsupported command)])

/-- Handles the outcome of one frame. -/
def dispatch (loop : ReadLoop L) : Frame.Outcome → ReadLoop L × List Effect
  | .error rejection =>
    (loop, [.note ⟨.warn, rejection.message⟩, .publish (.rejected rejection)])
  | .ok command =>
    if command.payload.isOrder then loop.draw command
    else (loop, [.note (messageEntry command), .publish (.message command)])

/-- Handles the outcomes of frames in order. -/
def dispatchAll (loop : ReadLoop L) : List Frame.Outcome → ReadLoop L × List Effect
  | [] => (loop, [])
  | outcome :: rest =>
    let (dispatched, effects) := loop.dispatch outcome
    let (last, more) := dispatched.dispatchAll rest
    (last, effects ++ more)

/-! ### Ending -/

/-- The line for a link that could not be closed. -/
def closingEntries : Except Fault Unit → List Entry
  | .ok () => []
  | .error fault => [⟨.warn, "Failed to close transport: " ++ fault.message⟩]

/-- The line that sums up a loop. -/
def summaryEntry (loop : ReadLoop L) : Entry :=
  ⟨.info, "Read loop ended chunks=" ++ Radix.decimal loop.chunks ++ " frames_decoded=" ++
    Radix.decimal loop.decoder.tally.decoded ++ " frames_rejected=" ++
    Radix.decimal loop.decoder.tally.rejected⟩

/-- Ends the loop: drops what the decoder holds and closes the link. -/
def finish (loop : ReadLoop L) (ending : Ending) : ReadLoop L × List Effect :=
  let closed := Link.close loop.link
  let last := { loop with
    decoder := loop.decoder.reset, link := closed.link, ending? := some ending }
  (last,
    Effect.notes loop.decoder.resetEntries ++ [.release] ++ Effect.notes closed.entries ++
      Effect.notes (closingEntries closed.answer) ++ [.note last.summaryEntry, .conclude ending])

/-- Ends the loop after a fault of the link. -/
def fail (loop : ReadLoop L) (fault : Fault) : ReadLoop L × List Effect :=
  let (last, effects) := loop.finish (.failed (Breakdown.classify fault true) fault)
  (last, .note ⟨.error, "Transport error: " ++ fault.message⟩ :: effects)

/-! ### Turns -/

/-- Acknowledges a chunk. -/
def acknowledge (loop : ReadLoop L) : ReadLoop L × List Effect :=
  let bytes := [loop.ackByte]
  let written := Link.write loop.link bytes
  let next := { loop with link := written.link }
  let effects := .send bytes :: Effect.notes written.entries
  match written.answer with
  | .ok () => (next, effects)
  | .error fault =>
    let (last, more) := next.fail fault
    (last, effects ++ more)

/-- Decodes a chunk and dispatches its frames. -/
def decode (loop : ReadLoop L) (bytes : List UInt8) : ReadLoop L × List Effect :=
  let chunks := loop.chunks + 1
  let (decoder, outcomes) := loop.decoder.feed bytes
  let (dispatched, effects) := dispatchAll { loop with chunks, decoder } outcomes
  let announced : Entry :=
    ⟨.trace, "Chunk " ++ Radix.decimal chunks ++ ": " ++ Radix.decimal bytes.length ++ " bytes"⟩
  (dispatched, Effect.notes (announced :: loop.decoder.feedEntries bytes) ++ effects)

/-- Handles what the link gave. -/
def receive (loop : ReadLoop L) : Reading → ReadLoop L × List Effect
  | .waiting => (loop, [])
  | .chunk bytes =>
    let (decoded, effects) := loop.decode bytes
    let (acknowledged, more) := decoded.acknowledge
    (acknowledged, effects ++ more)
  | .finished =>
    let (last, effects) := loop.finish .finished
    (last, .note ⟨.info, "Transport stream ended after " ++ Radix.decimal loop.chunks ++
      " chunks"⟩ :: effects)
  | .failed fault => loop.fail fault

/-- Resets the panel. -/
def resetPanel (loop : ReadLoop L) : ReadLoop L × List Effect :=
  let (panel, notices) := loop.panel.perform .reset
  let (redrawn, effects) := loop.redraw panel notices
  (redrawn, Effect.notes (Panel.changeEntries .reset) ++ effects ++
    [.publish (.reset redrawn.shown)])

/-- Makes a turn; a loop that has ended makes none. -/
def attend (loop : ReadLoop L) (turn : Turn) : ReadLoop L × List Effect :=
  if loop.ending?.isSome then (loop, [])
  else
    match turn with
    | .cancellation =>
      let (last, effects) := loop.finish .disconnected
      (last, .note ⟨.info, "Read loop cancelled"⟩ :: effects)
    | .resetRequest => loop.resetPanel
    | .reading reading => loop.receive reading

/-- Makes turns in order. -/
def attendAll (loop : ReadLoop L) : List Turn → ReadLoop L × List Effect
  | [] => (loop, [])
  | turn :: rest =>
    let (attended, effects) := loop.attend turn
    let (last, more) := attended.attendAll rest
    (last, effects ++ more)

/-! ### Choice of the next turn -/

/-- What the host asked of a loop and the loop has not attended to yet. -/
structure Requests where
  cancelled : Bool := false
  resets : Nat := 0
  deriving DecidableEq, Repr

/-- Chooses the next turn at a moment; the link is read only if nothing comes before it. -/
def choose (loop : ReadLoop L) (requests : Requests) (now : Nat) :
    ReadLoop L × Requests × Turn × List Effect :=
  if requests.cancelled then (loop, requests, .cancellation, [])
  else
    match requests.resets with
    | resets + 1 => (loop, { requests with resets }, .resetRequest, [])
    | 0 =>
      let read := Link.read loop.link now
      ({ loop with link := read.link }, requests, .reading read.answer, Effect.notes read.entries)

/-- Makes turns at a moment until nothing is left to do, at most as many as the fuel allows. -/
def run : Nat → ReadLoop L → Requests → Nat → ReadLoop L × Requests × List Effect
  | 0, loop, requests, _ => (loop, requests, [])
  | fuel + 1, loop, requests, now =>
    if loop.ending?.isSome then (loop, requests, [])
    else
      let (chosen, left, turn, effects) := loop.choose requests now
      let (attended, more) := chosen.attend turn
      if turn = .reading .waiting then (attended, left, effects ++ more)
      else
        let (last, rest, others) := run fuel attended left now
        (last, rest, effects ++ more ++ others)

/-- The number of turns that is enough to attend to everything there is. -/
def enough (loop : ReadLoop L) (requests : Requests) : Nat :=
  requests.resets + Link.backlog loop.link + 2

/-- Begins to run, unless that has happened before. -/
def begin (loop : ReadLoop L) : ReadLoop L × List Effect :=
  if loop.started then (loop, [])
  else
    ({ loop with started := true },
      [.note ⟨.info, "Read loop started transport=" ++ Link.name loop.link⟩])

/-- Runs at a moment until nothing is left to do. -/
def settle (loop : ReadLoop L) (requests : Requests) (now : Nat) :
    ReadLoop L × Requests × List Effect :=
  let (begun, effects) := loop.begin
  let (last, left, more) := run (begun.enough requests) begun requests now
  (last, left, effects ++ more)

end ReadLoop

end PanelLink
