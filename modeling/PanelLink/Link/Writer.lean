/-
This file holds the writer that works in the background of a link. It takes bytes from a
queue, writes all of them, has them flushed and goes on with the next. Once nobody can queue
any more, it writes what is left and shuts what it writes to. That may take fewer bytes than
it is offered or let the writer wait; it may also fail, and then the writer stops. A step of
the writer asks for one thing at most.
-/

import PanelLink.Fault

namespace PanelLink

/-- What a writer asks for. -/
inductive Demand where
  | take (bytes : List UInt8)
  | flush
  | shut
  deriving DecidableEq, Repr

/-- What a writer gets for an answer. -/
inductive Uptake where
  /-- It is done; of bytes to take, so many were taken. -/
  | done (count : Nat)
  /-- Nothing is done yet. -/
  | pending
  | failed (failure : IoFailure)
  deriving DecidableEq, Repr

/-- What a writer at work is doing. -/
inductive Stage where
  /-- It waits for bytes from the queue. -/
  | idle
  | writing (bytes : List UInt8)
  | flushing
  | shutting
  deriving DecidableEq, Repr

/-- The writer of a link. -/
inductive Writer where
  /-- It has not started. -/
  | absent
  | busy (stage : Stage) (queue : List (List UInt8))
  /-- It has stopped, but what is queued now is not refused yet. -/
  | leaving (failure? : Option IoFailure)
  | gone (failure? : Option IoFailure)
  deriving DecidableEq, Repr

/-- The failure of writing to what takes nothing. -/
def nothingTaken : IoFailure := ⟨.writeZero, "write zero"⟩

/-- The failure that an answer means to a writer. -/
def Uptake.failure? (demand : Demand) : Uptake → Option IoFailure
  | done count =>
    match demand with
    | .take _ => if count = 0 then some nothingTaken else none
    | .flush | .shut => none
  | pending => none
  | failed failure => some failure

namespace Stage

def demand? : Stage → Option Demand
  | idle => none
  | writing bytes => if bytes.isEmpty then none else some (.take bytes)
  | flushing => some .flush
  | shutting => some .shut

/-- The writer after a step in which it asks for nothing. -/
def turn (lasting : Bool) (queue : List (List UInt8)) : Stage → Writer
  | idle =>
    match queue with
    | bytes :: rest => .busy (.writing bytes) rest
    | [] => .busy (if lasting then .idle else .shutting) []
  | writing _ | flushing => .busy .flushing queue
  | shutting => .busy .shutting queue

/-- The writer after it was done what it asked for. -/
def proceed (count : Nat) (queue : List (List UInt8)) : Stage → Writer
  | writing bytes => .busy (.writing (bytes.drop count)) queue
  | idle | flushing => .busy .idle queue
  | shutting => .leaving none

/-- A bound on the steps that are left of a stage. -/
def burden : Stage → Nat
  | shutting => 0
  | idle => 1
  | flushing => 2
  | writing bytes => bytes.length + 3

end Stage

namespace Writer

/-- What a writer asks for in its next step. -/
def demand? : Writer → Option Demand
  | busy stage _ => stage.demand?
  | absent | leaving _ | gone _ => none

/-- One step of a writer, with the answer to what it asks for. -/
def advance (lasting : Bool) (uptake : Uptake) : Writer → Writer
  | busy stage queue =>
    match stage.demand? with
    | none => stage.turn lasting queue
    | some demand =>
      match uptake.failure? demand, uptake with
      | some failure, _ => leaving (some failure)
      | none, .done count => stage.proceed count queue
      | none, _ => busy stage queue
  | leaving failure? => gone failure?
  | absent => absent
  | gone failure? => gone failure?

/-- A bound on the steps that a writer can do without more bytes. -/
def burden : Writer → Nat
  | absent | gone _ => 0
  | leaving _ => 1
  | busy stage queue => 2 + stage.burden + queue.flatten.length + 3 * queue.length

/-- Whether a writer has what it writes to. -/
def isPresent : Writer → Bool
  | busy .. | leaving _ => true
  | absent | gone _ => false

end Writer

end PanelLink
