/-
This file holds the host's end of a link over anything that can be read and written. What is
written goes to a queue, which a writer empties in the background, so a device that stops
reading never holds up the host. The writer starts with the first write and stops at the
first failure, which a later write reports, once. After the link is closed it writes what is
queued, and then shuts what it writes to.
-/

import PanelLink.Link.Basic
import PanelLink.Link.Writer

namespace PanelLink

open Journal

/-- What comes in answer to a read. -/
inductive Arrival where
  | nothing
  /-- Bytes that arrived; none at the end of the stream. -/
  | bytes (bytes : List UInt8)
  | failed (failure : IoFailure)
  deriving DecidableEq, Repr

/-- The sending side of a link. -/
inductive Sending where
  /-- Nothing was written yet. -/
  | unused
  /-- What is written goes to the queue. -/
  | queueing
  /-- Nothing can be written any more. -/
  | closed
  deriving DecidableEq, Repr

/-- The host's end of a link. -/
structure Duplex where
  reading : Bool := true
  sending : Sending := .unused
  writer : Writer := .absent
  name : String := "io"
  deriving DecidableEq, Repr

namespace Duplex

/-- Whether the link can be used for nothing any more. -/
def isClosed (duplex : Duplex) : Bool :=
  !duplex.reading && duplex.sending == .closed

/-- The fault of using a closed side of a link. -/
def closedFault (operation : LinkOperation) : Fault :=
  .link operation "transport is closed" none

/-- A line about a link. -/
def entry (duplex : Duplex) (level : Level) (text : String) : Entry :=
  ⟨level, duplex.name ++ ": " ++ text⟩

/-! ### The host -/

/-- Passes on what came in answer to a read. -/
def read (duplex : Duplex) (arrival : Arrival) : Performed Duplex Reading :=
  if !duplex.reading then ⟨duplex, .failed (closedFault .reading), []⟩
  else
    match arrival with
    | .nothing => ⟨duplex, .waiting, []⟩
    | .bytes [] => ⟨duplex, .finished, [duplex.entry .debug "end of stream"]⟩
    | .bytes bytes => ⟨duplex, .chunk bytes,
      [duplex.entry .trace ("read " ++ Radix.decimal bytes.length ++ " bytes")]⟩
    | .failed failure => ⟨duplex, .failed (.ofIo .reading failure), []⟩

/-- Queues bytes for the writer, or reports that it is gone. -/
def enqueue (duplex : Duplex) (bytes : List UInt8) : Performed Duplex (Except Fault Unit) :=
  match duplex.writer with
  | .absent => ⟨{ duplex with writer := .busy .idle [bytes] }, .ok (), []⟩
  | .busy stage queue => ⟨{ duplex with writer := .busy stage (queue ++ [bytes]) }, .ok (), []⟩
  | .leaving _ => ⟨duplex, .ok (), []⟩
  | .gone (some failure) =>
    ⟨{ duplex with sending := .closed }, .error (.ofIo .writing failure), []⟩
  | .gone none =>
    ⟨{ duplex with sending := .closed }, .error (.link .writing "writer stopped" none), []⟩

/-- Sends bytes by way of the queue. -/
def write (duplex : Duplex) (bytes : List UInt8) : Performed Duplex (Except Fault Unit) :=
  match duplex.sending with
  | .closed => ⟨duplex, .error (closedFault .writing), []⟩
  | .unused | .queueing => enqueue { duplex with sending := .queueing } bytes

/-- What closing asks for: what was never written to is shut at once. -/
def demand? (duplex : Duplex) : Option Demand :=
  if duplex.sending = .unused then some .shut else none

/-- Stops reading and writing; what is queued is still written. What was never written to is shut,
which can fail. -/
def close (duplex : Duplex) (failure? : Option IoFailure) : Performed Duplex (Except Fault Unit) :=
  if duplex.isClosed then ⟨duplex, .ok (), []⟩
  else
    let closed := { duplex with reading := false, sending := .closed }
    match duplex.demand?, failure? with
    | some _, some failure => ⟨closed, .error (.ofIo .closing failure),
      [duplex.entry .warn ("error while closing: " ++ (Fault.ofIo .closing failure).message)]⟩
    | _, _ => ⟨closed, .ok (), [duplex.entry .debug "closed"]⟩

/-! ### The background -/

/-- The lines for a writer that stops. -/
def lastEntries (duplex : Duplex) : Writer → List Entry
  | .leaving none => [duplex.entry .trace "writer finished"]
  | .leaving (some failure) => [duplex.entry .warn ("write failed: " ++ failure.text)]
  | .absent | .busy .. | .gone _ => []

/-- Lets the writer do one step, with the answer to what it asks for. -/
def work (duplex : Duplex) (uptake : Uptake) : Duplex × List Entry :=
  let writer := duplex.writer.advance (duplex.sending == .queueing) uptake
  ({ duplex with writer }, duplex.lastEntries writer)

end Duplex

end PanelLink
