/-
This file holds the state a terminal is put into for a serial line: raw bytes in both
directions at the speed of the line, with its stop bits, parity check and flow control.
Only flow control by characters takes bytes out of the input.
-/

import PanelLink.Settings.Basic

namespace PanelLink.Settings

/-- The state of a terminal, as far as a line decides it. -/
structure Terminal where
  inputSpeed : Nat
  outputSpeed : Nat
  twoStopBits : Bool
  oddParity : Bool
  /-- Parity errors of the input are looked for. -/
  checksParity : Bool
  hardwareFlow : Bool
  /-- The terminal heeds stop and start characters. -/
  heedsStop : Bool
  /-- The terminal sends stop and start characters. -/
  sendsStop : Bool
  /-- Input is received, and modem lines are ignored. -/
  receivesLocally : Bool := true
  /-- Line ends are translated. -/
  translates : Bool := false
  /-- Input is edited by lines, echoed or scanned for signals. -/
  interactive : Bool := false
  deriving DecidableEq, Repr

/-- The state of a terminal for a line. -/
def Line.terminal (line : Line) : Terminal :=
  { inputSpeed := line.baudRate
    outputSpeed := line.baudRate
    twoStopBits := line.stopBits == 2
    oddParity := line.parity == .odd
    checksParity := line.parity != .none
    hardwareFlow := line.flowControl == .hardware
    heedsStop := line.flowControl == .software
    sendsStop := line.flowControl == .software }

namespace Terminal

/-- The character that lets output go on. -/
def startByte : UInt8 := 0x11

/-- The character that halts output. -/
def stopByte : UInt8 := 0x13

/-- The part of the input that a reader gets: stop and start characters that the terminal
heeds are not among it. -/
def handedOn (terminal : Terminal) (bytes : List UInt8) : List UInt8 :=
  if terminal.heedsStop then bytes.filter fun byte => byte != startByte && byte != stopByte
  else bytes

end Terminal

end PanelLink.Settings
