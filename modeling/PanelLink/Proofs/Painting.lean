/-
This file follows the picture of a panel through everything that its host does with it.
No picture is kept for that: each action either covers a pixel with a value or leaves it
alone, which depends on the action, the cursor before it and the pixel, and the last
value that a pixel was given is the one that it shows.
-/

import PanelLink.Proofs.Covering

namespace PanelLink

/-! ### Actions -/

/-- What a host does with a panel. -/
inductive Action where
  | perform (change : Change)
  /-- Apply a command of the device. -/
  | apply (command : Command)
  | takeDirty
  | setResetOnClear (enabled : Bool)
  | listen (name : String)
  deriving DecidableEq, Repr

namespace Panel

/-- The panel after an action, and what its listener was told; a refused command does nothing. -/
def act (panel : Panel) : Action → Panel × List Notice
  | .perform change => panel.perform change
  | .apply command =>
    match panel.apply command with
    | .ok result => result
    | .error _ => (panel, [])
  | .takeDirty => (panel.takeDirty.1, [])
  | .setResetOnClear enabled => (panel.setResetOnClear enabled, [])
  | .listen name => (panel.listen name, [])

/-- The panel after actions in order, and everything its listeners were told. -/
def actAll (panel : Panel) : List Action → Panel × List Notice
  | [] => (panel, [])
  | action :: rest =>
    let (acted, notices) := panel.act action
    let (last, more) := acted.actAll rest
    (last, notices ++ more)

end Panel

/-! ### What an action covers -/

/-- The value that applying a payload gives a pixel. Clearing gives the same value whether it
resets the panel or not. -/
def Payload.cover? (cursor : Cursor) (x y : Nat) : Payload → Option UInt8
  | .order (.write content mode) =>
    Cover.text? mode content.toList cursor.row.toNat cursor.column.toNat x y
  | .order (.writeAt content row column mode) =>
    Cover.text? mode content.toList row.toNat column.toNat x y
  | .order (.columns bytes) =>
    Cover.columns? bytes cursor.row.toNat (cursor.column.toNat * cellWidth) x y
  | .order .clearAll => some 0
  | .order (.clearRow row) => if y / cellHeight = row.toNat then some 0 else none
  | .order (.moveCursor ..) | .order (.columnsAt ..) | .order (.graphicLine ..) => none
  | .message _ => none

/-- The value that an action gives a pixel, if it covers the pixel at all. -/
def Action.cover? (cursor : Cursor) (x y : Nat) : Action → Option UInt8
  | .perform change => change.cover? cursor x y
  | .apply command => command.payload.cover? cursor x y
  | .takeDirty | .setResetOnClear _ | .listen _ => none

namespace Panel

/-- The values that actions give a pixel, in order; those that do not cover it give none. -/
def covers (panel : Panel) (x y : Nat) : List Action → List UInt8
  | [] => []
  | action :: rest =>
    (action.cover? panel.cursor x y).toList ++ (panel.act action).1.covers x y rest

/-- A payload covers what the change covers that it asks for, if it asks for any. -/
theorem cover?_of_changeFor? (panel : Panel) (payload : Payload) (x y : Nat) :
    (panel.changeFor? payload).bind (Change.cover? panel.cursor x y) =
      payload.cover? panel.cursor x y := by
  cases payload with
  | message content => rfl
  | order content =>
    cases content with
    | clearAll =>
      show Change.cover? panel.cursor x y (if panel.resetOnClear then .reset else .clearAll) =
        some 0
      cases panel.resetOnClear <;> rfl
    | writeAt content row column mode =>
      show Cover.text? mode content.toList row.toUInt16.toNat column.toUInt16.toNat x y =
        Cover.text? mode content.toList row.toNat column.toNat x y
      rw [UInt8.toNat_toUInt16, UInt8.toNat_toUInt16]
    | clearRow row =>
      show (if y / cellHeight = row.toUInt16.toNat then some 0 else none) =
        if y / cellHeight = row.toNat then some 0 else none
      rw [UInt8.toNat_toUInt16]
    | _ => rfl

/-! ### Runs -/

/-- An action gives every pixel that it covers its value, and leaves all others. -/
theorem pixel?_act (panel : Panel) (action : Action) (x y : Nat) :
    (panel.act action).1.snapshot.pixel? x y =
      (panel.snapshot.pixel? x y).map fun old => (action.cover? panel.cursor x y).getD old := by
  cases action with
  | perform change => exact pixel?_changed panel change x y
  | apply command =>
    have covered := cover?_of_changeFor? panel command.payload x y
    show _ = (panel.snapshot.pixel? x y).map fun old =>
      (command.payload.cover? panel.cursor x y).getD old
    rw [← covered, act, apply]
    cases panel.changeFor? command.payload with
    | some change => exact pixel?_changed panel change x y
    | none => exact Option.map_id'.symm
  | takeDirty => exact Option.map_id'.symm
  | setResetOnClear enabled => exact Option.map_id'.symm
  | listen name => exact Option.map_id'.symm

/-- After actions a pixel shows the last value that it was given, or else what it showed. -/
theorem pixel?_actAll (panel : Panel) (actions : List Action) (x y : Nat) :
    (panel.actAll actions).1.snapshot.pixel? x y =
      (panel.snapshot.pixel? x y).map fun old => (panel.covers x y actions).getLast?.getD old := by
  induction actions generalizing panel with
  | nil => exact Option.map_id'.symm
  | cons action rest inductionHypothesis =>
    show ((panel.act action).1.actAll rest).1.snapshot.pixel? x y = _
    rw [inductionHypothesis, pixel?_act, Option.map_map, covers, List.getLast?_append]
    refine congrArg (Option.map · (panel.snapshot.pixel? x y)) (funext fun old => ?_)
    rw [Option.getD_or]
    cases action.cover? panel.cursor x y <;> rfl

/-- Whatever is done with a new panel, every pixel of it shows the value that the last action
covering the pixel gave it, and is dark if there was none. -/
theorem pixel?_actAll_blank (geometry : Geometry) (resetOnClear : Bool) (actions : List Action)
    (x y : Nat) :
    let panel := (blank geometry).setResetOnClear resetOnClear
    (panel.actAll actions).1.snapshot.pixel? x y =
      if x < geometry.width ∧ y < geometry.height then
        some ((panel.covers x y actions).getLast?.getD 0)
      else none := by
  intro panel
  have dark : panel.snapshot.pixel? x y =
      if x < geometry.width ∧ y < geometry.height then some 0 else none :=
    pixel?_blank geometry x y
  rw [pixel?_actAll, dark]
  split
  · rfl
  · rfl

end Panel

end PanelLink
