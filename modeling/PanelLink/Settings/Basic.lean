/-
This file holds the settings of a monitor. Every setting has a default, and the
defaults are what the reference firmware expects.
-/

import PanelLink.Display.Geometry

namespace PanelLink

namespace Settings

/-! ### Parts -/

/-- The parity bit of a serial line. -/
inductive Parity where
  | none
  | even
  | odd
  deriving DecidableEq, Repr

/-- How a serial line is slowed down. -/
inductive FlowControl where
  | none
  | hardware
  | software
  deriving DecidableEq, Repr

/-- The settings of a serial line. -/
structure Line where
  baudRate : Nat := 460800
  dataBits : Nat := 8
  stopBits : Nat := 1
  parity : Parity := .none
  flowControl : FlowControl := .none
  deriving DecidableEq, Repr

/-- The settings of the panel. -/
structure Display where
  width : Nat := Geometry.reference.width
  height : Nat := Geometry.reference.height
  resetOnClear : Bool := false
  deriving DecidableEq, Repr

/-- The size of the panel. -/
def Display.geometry (display : Display) : Geometry :=
  ⟨display.width, display.height⟩

/-- How a capture is played back: the bytes per chunk and the pause between chunks. -/
structure Playback where
  chunkSize : Nat := 64
  intervalMs : Nat := 0
  deriving DecidableEq, Repr

/-- The pause between chunks in nanoseconds, if there is one. -/
def Playback.period? (playback : Playback) : Option Nat :=
  if 0 < playback.intervalMs then some (playback.intervalMs * 1000000) else none

end Settings

/-! ### All settings -/

/-- The settings of a monitor. -/
structure Settings where
  serial : Settings.Line := {}
  display : Settings.Display := {}
  /-- The byte written back after every received chunk. -/
  ackByte : UInt8 := 7
  readBufferSize : Nat := 4096
  /-- How many events a subscriber may be behind before it misses some. -/
  eventCapacity : Nat := 1024
  replay : Settings.Playback := {}
  deriving DecidableEq, Repr

end PanelLink
