/-
This file holds what a session tells its subscribers, and the ways a session ends.
Every frame and every reset makes exactly one event. An event that changed the panel
carries the panel as it was right after it.
-/

import PanelLink.Display.Snapshot
import PanelLink.Fault

namespace PanelLink

/-- What happened to one frame, or to the session. -/
inductive Event where
  /-- The panel drew an order. -/
  | drawn (command : Command) (snapshot : Snapshot)
  /-- The device sent a message. -/
  | message (command : Command)
  /-- The panel does not draw orders of this kind. -/
  | unsupported (command : Command)
  /-- A frame was refused. -/
  | rejected (rejection : Frame.Rejection)
  /-- The panel was reset from the host. -/
  | reset (snapshot : Snapshot)
  deriving DecidableEq, Repr

/-- Why a session ended. -/
inductive Ending where
  /-- The link reached its end. -/
  | finished
  /-- The host let go of the session. -/
  | disconnected
  /-- The link failed. -/
  | failed (breakdown : Breakdown) (fault : Fault)
  deriving DecidableEq, Repr

end PanelLink
