/-
This file holds what every link to a device can do: hand out the bytes that arrived,
send bytes, and be closed. Each operation answers at once; a read that has nothing to
hand out yet says so and loses nothing. A link that paces itself names the moment its
next read is worth trying. All times are nanoseconds since a common start.
-/

import PanelLink.Fault
import PanelLink.Journal

namespace PanelLink

/-- What a read of a link gives. -/
inductive Reading where
  /-- Nothing yet. -/
  | waiting
  /-- Bytes that arrived. -/
  | chunk (bytes : List UInt8)
  /-- The end of the stream. -/
  | finished
  /-- The link failed. -/
  | failed (fault : Fault)
  deriving DecidableEq, Repr

/-- The outcome of an operation: the link after it, its answer and the lines it leaves. -/
structure Performed (L A : Type) where
  link : L
  answer : A
  entries : List Journal.Entry := []

/-- The operations of a link. -/
class Link (L : Type) where
  /-- The name of the link in the journal. -/
  name : L → String
  /-- Asks for the next bytes at a moment. -/
  read : L → Nat → Performed L Reading
  /-- Sends bytes, without waiting for the device to take them. -/
  write : L → List UInt8 → Performed L (Except Fault Unit)
  /-- Releases the link; doing so again changes nothing. -/
  close : L → Performed L (Except Fault Unit)
  /-- The moment the next read is worth trying, where only time stands in its way. -/
  wakeAt? : L → Option Nat
  /-- A bound on the number of chunks the link can still hand out. -/
  backlog : L → Nat

/-- Reads, and where only time stands in the way, waits and reads again; gives the moment. -/
def Link.readWaiting {L : Type} [Link L] (link : L) (now : Nat) : Nat × Performed L Reading :=
  let first := read link now
  match first.answer, wakeAt? first.link with
  | .waiting, some moment =>
    let second := read first.link (max now moment)
    (max now moment, { second with entries := first.entries ++ second.entries })
  | _, _ => (now, first)

end PanelLink
