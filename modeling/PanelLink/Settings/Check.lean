/-
This file holds the check of settings: what a monitor cannot work with, in the order
it is looked for. The first problem found is the one reported.
-/

import PanelLink.Settings.Basic
import PanelLink.Text.Radix

namespace PanelLink

namespace Settings

/-- What is wrong with settings. -/
inductive Problem where
  /-- The document cannot be read as settings. -/
  | unreadable
  | noBaudRate
  | dataBits (count : Nat)
  | stopBits (count : Nat)
  | smallerThanCell (geometry : Geometry)
  | brokenRow (height : Nat)
  | noReadBuffer
  | noEventCapacity
  | noChunkSize
  deriving DecidableEq, Repr

/-- A size as width and height. -/
def sizeText (geometry : Geometry) : String :=
  Radix.decimal geometry.width ++ "x" ++ Radix.decimal geometry.height

/-- The words for a problem. -/
def Problem.words : Problem → String
  | .unreadable => "YAML parse error"
  | .noBaudRate => "serial.baud_rate must be positive"
  | .dataBits count => "serial.data_bits must be 5..=8, got " ++ Radix.decimal count
  | .stopBits count => "serial.stop_bits must be 1 or 2, got " ++ Radix.decimal count
  | .smallerThanCell geometry =>
    "display " ++ sizeText geometry ++ " is smaller than one " ++
      sizeText ⟨cellWidth, cellHeight⟩ ++ " cell"
  | .brokenRow height =>
    "display.height " ++ Radix.decimal height ++ " is not a multiple of " ++
      Radix.decimal cellHeight
  | .noReadBuffer => "read_buffer_size must be positive"
  | .noEventCapacity => "event_capacity must be positive"
  | .noChunkSize => "replay.chunk_size must be positive"

/-- Checks the settings of a serial line. -/
def Line.check (line : Line) : Except Problem Unit :=
  if line.baudRate = 0 then .error .noBaudRate
  else if line.dataBits < 5 ∨ 8 < line.dataBits then .error (.dataBits line.dataBits)
  else if line.stopBits < 1 ∨ 2 < line.stopBits then .error (.stopBits line.stopBits)
  else .ok ()

/-- Checks the settings of the panel: it has to hold a cell and only whole rows. -/
def Display.check (display : Display) : Except Problem Unit :=
  if display.width < cellWidth ∨ display.height < cellHeight then
    .error (.smallerThanCell display.geometry)
  else if display.height % cellHeight ≠ 0 then .error (.brokenRow display.height)
  else .ok ()

end Settings

/-- Checks settings. -/
def Settings.check (settings : Settings) : Except Settings.Problem Unit := do
  settings.serial.check
  settings.display.check
  if settings.readBufferSize = 0 then .error .noReadBuffer
  else if settings.eventCapacity = 0 then .error .noEventCapacity
  else if settings.replay.chunkSize = 0 then .error .noChunkSize
  else .ok ()

end PanelLink
