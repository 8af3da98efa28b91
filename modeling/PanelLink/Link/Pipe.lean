/-
This file holds one direction of a byte pipe. It takes as many bytes as there is room
for and gives them out in the same order. A closed pipe takes no more bytes, but gives
out those it still holds.
-/

namespace PanelLink

/-- A pipe with the bytes that wait in it. -/
structure Pipe where
  capacity : Nat
  held : List UInt8 := []
  closed : Bool := false
  deriving DecidableEq, Repr

namespace Pipe

/-- The number of bytes that fit in. -/
def room (pipe : Pipe) : Nat :=
  pipe.capacity - pipe.held.length

/-- Puts in what fits; returns what is left over. -/
def put (pipe : Pipe) (bytes : List UInt8) : Pipe × List UInt8 :=
  ({ pipe with held := pipe.held ++ bytes.take pipe.room }, bytes.drop pipe.room)

/-- Takes out at most a number of bytes. -/
def take (pipe : Pipe) (count : Nat) : Pipe × List UInt8 :=
  ({ pipe with held := pipe.held.drop count }, pipe.held.take count)

/-- Closes the pipe. -/
def close (pipe : Pipe) : Pipe :=
  { pipe with closed := true }

end Pipe

end PanelLink
