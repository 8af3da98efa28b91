/-
This file holds the link over a pair of pipes, one for each direction. The host's end reads
the one and has its writer write the other, as much as there is room for. It exists as long
as the port reads, was never written to, or has a writer at work; after that both pipes are
closed. The device can leave at any time, which closes both pipes as well.
-/

import PanelLink.Link.Duplex
import PanelLink.Link.Pipe

namespace PanelLink

open Journal

/-! ### Ends of a pipe -/

namespace Pipe

/-- The failure of writing to a pipe whose other end is gone. -/
def broken : IoFailure := ⟨.brokenPipe, "broken pipe"⟩

/-- What comes out of a pipe, at most a number of bytes. -/
def arrive (pipe : Pipe) (count : Nat) : Pipe × Arrival :=
  if pipe.held.isEmpty then (pipe, if pipe.closed then .bytes [] else .nothing)
  else
    let (rest, bytes) := pipe.take count
    (rest, .bytes bytes)

/-- Does what a writer asks of a pipe. -/
def meet (pipe : Pipe) : Demand → Pipe × Uptake
  | .take bytes =>
    if pipe.closed then (pipe, .failed broken)
    else if pipe.room = 0 then (pipe, .pending)
    else
      let (fuller, left) := pipe.put bytes
      (fuller, .done (bytes.length - left.length))
  | .flush => (pipe, .done 0)
  | .shut => (pipe.close, .done 0)

end Pipe

/-- A port with the pipes it is connected to. -/
structure Port extends Duplex where
  toHost : Pipe
  toDevice : Pipe
  /-- The most bytes one read hands out. -/
  bufferSize : Nat
  deviceGone : Bool := false
  deriving DecidableEq, Repr

namespace Port

/-- A port on fresh pipes; a buffer size of zero counts as one. -/
def connect (capacity bufferSize : Nat) : Port :=
  { toHost := { capacity }, toDevice := { capacity }, bufferSize := max bufferSize 1 }

/-- Changes the buffer size. -/
def setBufferSize (port : Port) (bufferSize : Nat) : Port :=
  { port with bufferSize := max bufferSize 1 }

/-- Whether the port can be used for nothing any more. -/
def isClosed (port : Port) : Bool :=
  port.toDuplex.isClosed

/-! ### The host -/

/-- The port after its host's end did something. -/
def perform {Result : Type} (port : Port) (performed : Performed Duplex Result) :
    Performed Port Result :=
  ⟨{ port with toDuplex := performed.link }, performed.answer, performed.entries⟩

/-- Asks for the bytes that arrived, up to the buffer size. -/
def read (port : Port) : Performed Port Reading :=
  let (toHost, arrival) := port.toHost.arrive port.bufferSize
  perform { port with toHost := if port.reading then toHost else port.toHost }
    (port.toDuplex.read arrival)

/-- Sends bytes by way of the queue. -/
def write (port : Port) (bytes : List UInt8) : Performed Port (Except Fault Unit) :=
  port.perform (port.toDuplex.write bytes)

/-- Stops reading and writing; what is queued is still written. -/
def close (port : Port) : Performed Port (Except Fault Unit) :=
  match port.toDuplex.demand? with
  | none => port.perform (port.toDuplex.close none)
  | some demand =>
    let (toDevice, uptake) := port.toDevice.meet demand
    perform { port with toDevice } (port.toDuplex.close (uptake.failure? demand))

instance : Link Port where
  name port := port.name
  read := fun port _ => port.read
  write := write
  close := close
  wakeAt? := fun _ => none
  backlog := fun port => port.toHost.held.length

/-! ### The background -/

/-- Lets the writer of a port do one step. -/
def work (port : Port) : Port × List Entry :=
  let (toDevice, uptake) := match port.writer.demand? with
    | none => (port.toDevice, .pending)
    | some demand => port.toDevice.meet demand
  let (toDuplex, entries) := port.toDuplex.work uptake
  ({ port with toDuplex, toDevice }, entries)

/-- Lets the writer of a port work as long as there is something to do. -/
def runWriter (port : Port) : Port × List Entry :=
  let (worked, entries) := port.work
  if worked.writer.burden < port.writer.burden then
    let (ran, more) := worked.runWriter
    (ran, entries ++ more)
  else (port, [])
termination_by port.writer.burden

/-- Whether the host's end of the pipes exists. -/
def hostPresent (port : Port) : Bool :=
  port.reading || port.sending == .unused || port.writer.isPresent

/-- Closes both pipes. -/
def disconnect (port : Port) : Port :=
  { port with toHost := port.toHost.close, toDevice := port.toDevice.close }

/-- Lets everything in the background run until nothing is left to do. -/
def settle (port : Port) : Port × List Entry :=
  let (ran, entries) := port.runWriter
  (if ran.hostPresent then ran else ran.disconnect, entries)

/-! ### The device -/

/-- What the device gets when it writes or reads. -/
inductive DeviceAnswer where
  | taken (count : Nat)
  | given (bytes : List UInt8)
  | pending
  /-- The host is gone. -/
  | broken (failure : IoFailure)
  /-- The device itself is gone. -/
  | gone
  deriving DecidableEq, Repr

/-- The device writes bytes, as many as fit. -/
def deviceWrite (port : Port) (bytes : List UInt8) : Port × DeviceAnswer :=
  if port.deviceGone then (port, .gone)
  else if port.toHost.closed then (port, .broken Pipe.broken)
  else if port.toHost.room = 0 then (port, .pending)
  else
    let (pipe, left) := port.toHost.put bytes
    ({ port with toHost := pipe }, .taken (bytes.length - left.length))

/-- The device reads at most a number of bytes; reading none never waits. -/
def deviceRead (port : Port) (count : Nat) : Port × DeviceAnswer :=
  if port.deviceGone then (port, .gone)
  else if count = 0 then (port, .given [])
  else if port.toDevice.held.isEmpty then
    (port, if port.toDevice.closed then .given [] else .pending)
  else
    let (pipe, bytes) := port.toDevice.take count
    ({ port with toDevice := pipe }, .given bytes)

/-- The device leaves. -/
def deviceLeave (port : Port) : Port :=
  { port.disconnect with deviceGone := true }

end Port

end PanelLink
