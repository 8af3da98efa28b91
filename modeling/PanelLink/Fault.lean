/-
This file holds what can go wrong around a panel and what to tell the user. Only
faults of the link and of files end a session. A fault of the link may carry the
failure that caused it, and a session that failed is classified from the fault and
from whether the session had been established.
-/

import PanelLink.Command.Basic
import PanelLink.Frame.Rejection

namespace PanelLink

/-! ### Causes -/

/-- The kinds of failure of an input or output operation. -/
inductive IoKind where
  | notFound
  | permissionDenied
  | isADirectory
  | notADirectory
  | invalidData
  | brokenPipe
  | timedOut
  | writeZero
  | other
  deriving DecidableEq, Repr

/-- A failed input or output operation, with the words of the system for it. -/
structure IoFailure where
  kind : IoKind
  text : String
  deriving DecidableEq, Repr

/-- What a link was doing. -/
inductive LinkOperation where
  | opening
  | reading
  | writing
  | closing
  deriving DecidableEq, Repr

/-- The name of an operation in messages. -/
def LinkOperation.name : LinkOperation → String
  | .opening => "open"
  | .reading => "read"
  | .writing => "write"
  | .closing => "close"

/-- What made a link fail. -/
inductive Cause where
  | io (failure : IoFailure)
  | framing (rejection : Frame.Rejection)
  deriving DecidableEq, Repr

/-- The words for a cause. -/
def Cause.text : Cause → String
  | .io failure => failure.text
  | .framing rejection => rejection.message

/-! ### Faults -/

/-- Everything that can go wrong. -/
inductive Fault where
  /-- One frame could not be read. -/
  | framing (rejection : Frame.Rejection)
  /-- The panel does not draw payloads of this kind. -/
  | unsupported (kind : Kind)
  /-- An operation on the link failed. -/
  | link (operation : LinkOperation) (reason : String) (cause : Option Cause)
  /-- The settings cannot be used. -/
  | settings (details : String)
  /-- A file cannot be read. -/
  | file (path : String) (failure : IoFailure)
  /-- A payload cannot be written as a frame. -/
  | encoding (details : String)
  /-- The session has ended. -/
  | sessionClosed
  deriving DecidableEq, Repr

namespace Fault

/-- A fault of the link that an input or output failure caused. -/
def ofIo (operation : LinkOperation) (failure : IoFailure) : Fault :=
  .link operation failure.text (some (.io failure))

/-- The fault in words. -/
def message : Fault → String
  | framing rejection => rejection.message
  | unsupported kind => kind.name ++ " is not supported by the display engine"
  | link operation reason _ => "Transport " ++ operation.name ++ " failed: " ++ reason
  | settings details => "Invalid configuration: " ++ details
  | file path _ => "File error: " ++ path
  | encoding details => "Cannot encode command: " ++ details
  | sessionClosed => "Session is closed"

/-- The words for what caused a fault, if anything did. -/
def causeText? : Fault → Option String
  | link _ _ cause => cause.map Cause.text
  | file _ failure => some failure.text
  | _ => none

/-- Whether a fault ends the session. -/
def isFatal : Fault → Bool
  | link .. | file .. => true
  | _ => false

/-- Whether trying again can help. -/
def isRetryable : Fault → Bool
  | link operation _ _ => operation != .closing
  | framing _ => true
  | _ => false

/-- What the user can do about a fault. -/
def suggestions : Fault → List String
  | framing _ =>
    ["Check that the baud rate matches the firmware",
      "Make sure payloads never contain the '#' sentinel byte"]
  | unsupported _ => ["Check the firmware for display functions the simulator cannot render"]
  | link .opening _ _ =>
    ["Ensure the microcontroller is plugged in",
      "Check that no other program holds the serial port",
      "Verify permissions on the serial device"]
  | link .. => ["Check the USB cable", "Reset the microcontroller and reconnect"]
  | settings _ => ["Check the configuration file against the documented defaults"]
  | encoding _ =>
    ["Split the command into frames the protocol can carry", "Avoid the '#' byte in payloads"]
  | file .. => ["Check the file exists and is readable", "Check file permissions"]
  | sessionClosed => ["Open a new session"]

/-- Whether a fault says that something does not exist. -/
def isMissing : Fault → Bool
  | file _ failure => failure.kind == .notFound
  | link _ _ (some (.io failure)) => failure.kind == .notFound
  | _ => false

end Fault

/-! ### Failed sessions -/

/-- What a fault means to the user of a session. -/
inductive Breakdown where
  /-- There is no device to open. -/
  | noDeviceFound
  /-- The device could not be opened. -/
  | couldNotConnect
  /-- An established session broke. -/
  | lostConnection
  deriving DecidableEq, Repr

namespace Breakdown

/-- Classifies a fault by whether the session had been established. -/
def classify (fault : Fault) (established : Bool) : Breakdown :=
  if established then lostConnection
  else if fault.isMissing then noDeviceFound
  else couldNotConnect

/-- The notification for the user. -/
def message : Breakdown → String
  | noDeviceFound => "No microcontroller found!"
  | couldNotConnect => "Could not establish a connection with the microcontroller."
  | lostConnection => "There was an error receiving data from the microcontroller."

end Breakdown

end PanelLink
