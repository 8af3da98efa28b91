/-
This file holds the link that follows a script: its reads are laid down in advance,
and it keeps a record of what was written and how often it was closed. Writing and
closing fail on demand.
-/

import PanelLink.Link.Basic

namespace PanelLink

/-- A link that follows a script. -/
structure Script where
  /-- The readings to come; without one a read waits. -/
  readings : List Reading := []
  /-- Everything written, in order. -/
  written : List UInt8 := []
  /-- How often the link was closed. -/
  closings : Nat := 0
  /-- What a write fails with, if it does. -/
  writeFault? : Option Fault := none
  /-- What closing fails with, if it does. -/
  closeFault? : Option Fault := none
  name : String := "script"
  deriving DecidableEq, Repr

namespace Script

/-- Adds a reading to the script. -/
def enqueue (script : Script) (reading : Reading) : Script :=
  { script with readings := script.readings ++ [reading] }

/-- Gives the next reading of the script. -/
def read (script : Script) : Performed Script Reading :=
  match script.readings with
  | [] => ⟨script, .waiting, []⟩
  | reading :: rest => ⟨{ script with readings := rest }, reading, []⟩

/-- Keeps the bytes, unless writing fails. -/
def write (script : Script) (bytes : List UInt8) : Performed Script (Except Fault Unit) :=
  match script.writeFault? with
  | none => ⟨{ script with written := script.written ++ bytes }, .ok (), []⟩
  | some fault => ⟨script, .error fault, []⟩

/-- Counts the closing, also one that fails. -/
def close (script : Script) : Performed Script (Except Fault Unit) :=
  let closed := { script with closings := script.closings + 1 }
  match script.closeFault? with
  | none => ⟨closed, .ok (), []⟩
  | some fault => ⟨closed, .error fault, []⟩

instance : Link Script where
  name := Script.name
  read := fun script _ => script.read
  write := write
  close := close
  wakeAt? := fun _ => none
  backlog := fun script => script.readings.length

end Script

end PanelLink
