/-
This file reads settings from data trees and writes them as such. Missing fields have
their defaults, fields that are not known are ignored, and a known field must not be
there twice. Reading does not check the settings.
-/

import PanelLink.Data.Words
import PanelLink.Settings.Basic

namespace PanelLink

open Data

variable {Tree : Type} [View Tree]

namespace Settings

/-! ### Words -/

/-- The words for the parities. -/
def Parity.words : List (String × Parity) :=
  [("none", .none), ("even", .even), ("odd", .odd)]

/-- The words for the kinds of flow control. -/
def FlowControl.words : List (String × FlowControl) :=
  [("none", .none), ("hardware", .hardware), ("software", .software)]

/-! ### Serial line -/

/-- The settings of a serial line from a record. -/
def Line.read? (tree : Tree) : Option Line := do
  let fields ←
    View.fields? ["baud_rate", "data_bits", "stop_bits", "parity", "flow_control"] tree
  let usual : Line := {}
  let baudRate ← field? fields "baud_rate" (below? UInt32.size) usual.baudRate
  let dataBits ← field? fields "data_bits" (below? 256) usual.dataBits
  let stopBits ← field? fields "stop_bits" (below? 256) usual.stopBits
  let parity ← field? fields "parity" (wordIn? Parity.words) usual.parity
  let flowControl ← field? fields "flow_control" (wordIn? FlowControl.words) usual.flowControl
  return { baudRate, dataBits, stopBits, parity, flowControl }

/-- The settings of a serial line as a record. -/
def Line.toTree (line : Line) : Data.Tree :=
  .record [("baud_rate", .natural line.baudRate), ("data_bits", .natural line.dataBits),
    ("stop_bits", .natural line.stopBits),
    ("parity", .text (wordFor Parity.words line.parity)),
    ("flow_control", .text (wordFor FlowControl.words line.flowControl))]

/-! ### Panel -/

/-- The settings of the panel from a record. -/
def Display.read? (tree : Tree) : Option Display := do
  let fields ← View.fields? ["width", "height", "reset_on_clear"] tree
  let usual : Display := {}
  let width ← field? fields "width" (below? sizeLimit) usual.width
  let height ← field? fields "height" (below? sizeLimit) usual.height
  let resetOnClear ← field? fields "reset_on_clear" View.boolean? usual.resetOnClear
  return { width, height, resetOnClear }

/-- The settings of the panel as a record. -/
def Display.toTree (display : Display) : Data.Tree :=
  .record [("width", .natural display.width), ("height", .natural display.height),
    ("reset_on_clear", .truth display.resetOnClear)]

/-! ### Playback -/

/-- The settings of a playback from a record. -/
def Playback.read? (tree : Tree) : Option Playback := do
  let fields ← View.fields? ["chunk_size", "interval_ms"] tree
  let usual : Playback := {}
  let chunkSize ← field? fields "chunk_size" (below? sizeLimit) usual.chunkSize
  let intervalMs ← field? fields "interval_ms" (below? sizeLimit) usual.intervalMs
  return { chunkSize, intervalMs }

/-- The settings of a playback as a record. -/
def Playback.toTree (playback : Playback) : Data.Tree :=
  .record [("chunk_size", .natural playback.chunkSize),
    ("interval_ms", .natural playback.intervalMs)]

/-! ### All settings -/

/-- The settings of a monitor from a record. -/
def read? (tree : Tree) : Option Settings := do
  let fields ← View.fields?
    ["serial", "display", "ack_byte", "read_buffer_size", "event_capacity", "replay"] tree
  let usual : Settings := {}
  let serial ← field? fields "serial" Line.read? usual.serial
  let display ← field? fields "display" Display.read? usual.display
  let ackByte ← field? fields "ack_byte" (below? 256) usual.ackByte.toNat
  let readBufferSize ← field? fields "read_buffer_size" (below? sizeLimit) usual.readBufferSize
  let eventCapacity ← field? fields "event_capacity" (below? sizeLimit) usual.eventCapacity
  let replay ← field? fields "replay" Playback.read? usual.replay
  return { serial, display, ackByte := UInt8.ofNat ackByte, readBufferSize, eventCapacity, replay }

/-- The settings of a monitor as a record. -/
def toTree (settings : Settings) : Data.Tree :=
  .record [("serial", settings.serial.toTree), ("display", settings.display.toTree),
    ("ack_byte", .natural settings.ackByte.toNat),
    ("read_buffer_size", .natural settings.readBufferSize),
    ("event_capacity", .natural settings.eventCapacity), ("replay", settings.replay.toTree)]

end Settings

end PanelLink
