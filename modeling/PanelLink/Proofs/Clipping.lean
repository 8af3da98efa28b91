/-
This file compares panels of different sizes. What is off a panel is clipped, and clipping
hides pixels and does nothing else: if the same things are done with a small and with a
large panel, the picture of the small one is the upper left part of the picture of the large
one, and the host cannot tell them apart by anything but the picture.

A change gives each pixel a value that does not depend on the edges, so one step keeps
two panels alike wherever both have a pixel, and a run follows by induction.
-/

import PanelLink.Proofs.Painting

namespace PanelLink

/-! ### Cropping -/

/-- The upper left part of a picture, line by line, for a panel of the given size. -/
def Snapshot.crop (snapshot : Snapshot) (geometry : Geometry) : List UInt8 :=
  (List.range geometry.height).flatMap fun y =>
    (snapshot.pixels.toList.drop (y * snapshot.geometry.width)).take geometry.width

/-- A buffer falls into its lines. -/
theorem flatMap_lines (values : List UInt8) (width height : Nat) :
    (List.range height).flatMap (fun y => (values.drop (y * width)).take width) =
      values.take (height * width) := by
  induction height with
  | zero => rw [Nat.zero_mul]; rfl
  | succ height inductionHypothesis =>
    rw [List.range_succ, List.flatMap_append, inductionHypothesis, List.flatMap_singleton,
      Nat.succ_mul, List.take_add]

/-! ### What a host can tell -/

/-- What a host learns from an action, besides the picture. -/
structure Reply where
  /-- The result of applying a command. -/
  applied : Option (Except Kind Unit)
  /-- The answer whether the panel changed. -/
  changed : Option Bool
  /-- How often a listener was notified. -/
  notified : Nat

namespace Panel

def reply (panel : Panel) (action : Action) : Reply where
  applied :=
    match action with
    | .apply command => some ((panel.apply command).map fun _ => ())
    | _ => none
  changed :=
    match action with
    | .takeDirty => some panel.takeDirty.2
    | _ => none
  notified := (panel.act action).2.length

def replies (panel : Panel) : List Action → List Reply
  | [] => []
  | action :: rest => panel.reply action :: (panel.act action).1.replies rest

/-! ### Panels that differ in their edges -/

/-- A panel shows a part of what another one shows, and has everything else in common with it. -/
structure Crops (small large : Panel) : Prop where
  narrow : small.geometry.width ≤ large.geometry.width
  low : small.geometry.height ≤ large.geometry.height
  full : small.pixels.size = small.geometry.pixelCount
  cursor : small.cursor = large.cursor
  received : small.received = large.received
  dirty : small.dirty = large.dirty
  resetOnClear : small.resetOnClear = large.resetOnClear
  listener : small.listener = large.listener
  pixels : ∀ x y, x < small.geometry.width → y < small.geometry.height →
    small.snapshot.pixel? x y = large.snapshot.pixel? x y

theorem size_paint (pixels : Array UInt8) (strokes : List Stroke) :
    (Stroke.paint pixels strokes).size = pixels.size := by
  induction strokes generalizing pixels with
  | nil => rfl
  | cons stroke rest inductionHypothesis =>
    exact (inductionHypothesis _).trans Array.size_setIfInBounds

theorem changeFor?_congr {first second : Panel} (same : first.resetOnClear = second.resetOnClear)
    (payload : Payload) : first.changeFor? payload = second.changeFor? payload := by
  cases payload with
  | message content => rfl
  | order content =>
    cases content with
    | clearAll =>
      exact congrArg (fun resets => some (if resets then Change.reset else .clearAll)) same
    | _ => rfl

/-- A pixel of a panel is in its line of the buffer. -/
theorem pixel?_of_inside {panel : Panel} {x y : Nat} (inside : x < panel.geometry.width)
    (above : y < panel.geometry.height) :
    panel.snapshot.pixel? x y = panel.pixels.toList[y * panel.geometry.width + x]? := by
  show (panel.geometry.index? x y).bind (panel.pixels[·]?) = _
  rw [Geometry.index?, if_pos ⟨inside, above⟩, Option.bind_some, Array.getElem?_toList]

theorem crops_blank {small large : Geometry} (narrow : small.width ≤ large.width)
    (low : small.height ≤ large.height) : Crops (blank small) (blank large) := by
  refine ⟨narrow, low, Array.size_replicate, rfl, rfl, rfl, rfl, rfl, fun x y inside above => ?_⟩
  rw [pixel?_blank, pixel?_blank, if_pos ⟨inside, above⟩,
    if_pos ⟨Nat.lt_of_lt_of_le inside narrow, Nat.lt_of_lt_of_le above low⟩]

section Steps

variable {small large : Panel} (crops : Crops small large)

include crops

theorem crops_changed (change : Change) : Crops (small.changed change) (large.changed change) where
  narrow := crops.narrow
  low := crops.low
  full := (size_paint _ _).trans crops.full
  cursor := by
    show small.cursorAfter change = large.cursorAfter change
    cases change <;> simp only [cursorAfter, crops.cursor]
  received := by
    show small.receivedAfter change = large.receivedAfter change
    cases change <;> simp only [receivedAfter, crops.received]
  dirty := rfl
  resetOnClear := crops.resetOnClear
  listener := crops.listener
  pixels x y inside above := by
    -- What a change makes of a pixel depends on the cursor and on no edge.
    rw [pixel?_changed, pixel?_changed, crops.pixels x y inside above, crops.cursor]

theorem length_notices : small.notices.length = large.notices.length := by
  rw [notices, notices, crops.listener]
  cases large.listener <;> rfl

/-- A command keeps two panels alike, and both draw it or both refuse it. -/
theorem crops_apply (command : Command) :
    Crops (small.act (.apply command)).1 (large.act (.apply command)).1 ∧
      small.reply (.apply command) = large.reply (.apply command) := by
  have same := changeFor?_congr crops.resetOnClear command.payload
  cases asked : large.changeFor? command.payload with
  | some change =>
    rw [asked] at same
    have drawnSmall : small.apply command = .ok (small.perform change) := by rw [apply, same]
    have drawnLarge : large.apply command = .ok (large.perform change) := by rw [apply, asked]
    have after := crops_changed crops change
    have notified : (small.perform change).2.length = (large.perform change).2.length :=
      length_notices after
    simp only [reply, act, drawnSmall, drawnLarge]
    exact ⟨after, congrArg (Reply.mk (some (.ok ())) none) notified⟩
  | none =>
    rw [asked] at same
    have refusedSmall : small.apply command = .error command.kind := by rw [apply, same]
    have refusedLarge : large.apply command = .error command.kind := by rw [apply, asked]
    simp only [reply, act, refusedSmall, refusedLarge]
    exact ⟨crops, trivial⟩

/-- An action keeps two panels alike, and gets the same reply from both. -/
theorem crops_act (action : Action) :
    Crops (small.act action).1 (large.act action).1 ∧ small.reply action = large.reply action := by
  cases action with
  | perform change =>
    have after := crops_changed crops change
    exact ⟨after, congrArg (Reply.mk none none) (length_notices after)⟩
  | apply command => exact crops_apply crops command
  | takeDirty =>
    exact ⟨{ crops with dirty := rfl },
      congrArg (fun dirty => Reply.mk none (some dirty) 0) crops.dirty⟩
  | setResetOnClear enabled => exact ⟨{ crops with resetOnClear := rfl }, rfl⟩
  | listen name => exact ⟨{ crops with listener := rfl }, rfl⟩

/-- Actions keep two panels alike, and get the same replies from both. -/
theorem crops_actAll (actions : List Action) :
    Crops (small.actAll actions).1 (large.actAll actions).1 ∧
      small.replies actions = large.replies actions := by
  induction actions generalizing small large with
  | nil => exact ⟨crops, rfl⟩
  | cons action rest inductionHypothesis =>
    obtain ⟨after, reply⟩ := crops_act crops action
    obtain ⟨ended, others⟩ := inductionHypothesis after
    refine ⟨ended, ?_⟩
    rw [replies, replies, reply, others]

theorem line_of_crops {y : Nat} (above : y < small.geometry.height) :
    (small.pixels.toList.drop (y * small.geometry.width)).take small.geometry.width =
      (large.pixels.toList.drop (y * large.geometry.width)).take small.geometry.width := by
  refine List.ext_getElem? fun x => ?_
  rw [List.getElem?_take, List.getElem?_take]
  by_cases inside : x < small.geometry.width
  · have same := crops.pixels x y inside above
    rw [pixel?_of_inside inside above, pixel?_of_inside (Nat.lt_of_lt_of_le inside crops.narrow)
      (Nat.lt_of_lt_of_le above crops.low)] at same
    rw [if_pos inside, if_pos inside, List.getElem?_drop, List.getElem?_drop, same]
  · rw [if_neg inside, if_neg inside]

/-- The buffer of the small panel is the upper left part of that of the large panel. -/
theorem toList_of_crops : small.pixels.toList = large.snapshot.crop small.geometry := by
  have size : small.pixels.toList.length = small.geometry.height * small.geometry.width := by
    rw [Array.length_toList, crops.full, Geometry.pixelCount, Nat.mul_comm]
  have whole := flatMap_lines small.pixels.toList small.geometry.width small.geometry.height
  rw [List.take_of_length_le (Nat.le_of_eq size)] at whole
  rw [← whole, Snapshot.crop]
  refine List.flatMap_congr fun y member => ?_
  exact line_of_crops crops (List.mem_range.mp member)

end Steps

theorem geometry_act (panel : Panel) (action : Action) :
    (panel.act action).1.geometry = panel.geometry := by
  cases action with
  | apply command =>
    simp only [act, apply]
    cases panel.changeFor? command.payload <;> rfl
  | _ => rfl

theorem geometry_actAll (panel : Panel) (actions : List Action) :
    (panel.actAll actions).1.geometry = panel.geometry := by
  induction actions generalizing panel with
  | nil => rfl
  | cons action rest inductionHypothesis =>
    exact (inductionHypothesis (panel.act action).1).trans (geometry_act panel action)

/-- Whatever a host does with two new panels, of which one is at most as wide and as high as the
other, the picture of the small one is the upper left part of the picture of the large one. The
cursor, the count of orders and the dirty flag are the same, and every action got the same reply:
the same result of every command, the same answers about changes, and as many notices. -/
theorem actAll_crop (small large : Geometry) (narrow : small.width ≤ large.width)
    (low : small.height ≤ large.height) (resetOnClear : Bool) (actions : List Action) :
    let little := (blank small).setResetOnClear resetOnClear
    let big := (blank large).setResetOnClear resetOnClear
    let littleAfter := (little.actAll actions).1
    let bigAfter := (big.actAll actions).1
    littleAfter.pixels.toList = bigAfter.snapshot.crop small ∧
      littleAfter.cursor = bigAfter.cursor ∧ littleAfter.received = bigAfter.received ∧
      littleAfter.dirty = bigAfter.dirty ∧ little.replies actions = big.replies actions := by
  intro little big littleAfter bigAfter
  have start : Crops little big := { crops_blank narrow low with resetOnClear := rfl }
  obtain ⟨crops, replies⟩ := crops_actAll start actions
  have picture := toList_of_crops crops
  rw [geometry_actAll] at picture
  exact ⟨picture, crops.cursor, crops.received, crops.dirty, replies⟩

/-- Panels whose edges run through cells: a text and two columns that cross the edges of the
small one, a command that neither draws, and a listener that is told of the rest. -/
theorem actAll_crop_cut_cells :
    let small : Geometry := ⟨7, 9⟩
    let large : Geometry := ⟨13, 17⟩
    let actions : List Action :=
      [.listen "viewers", .perform (.writeAt ['W', 'g'] 0 0 .inverse),
        .apply ⟨0, .order (.graphicLine 1 [])⟩, .apply ⟨1, .order (.moveCursor (some 1) (some 1))⟩,
        .perform (.columns [5, 255]), .takeDirty]
    let little := (blank small).setResetOnClear true
    let big := (blank large).setResetOnClear true
    let littleAfter := (little.actAll actions).1
    let bigAfter := (big.actAll actions).1
    (small.width ≤ large.width ∧ small.height ≤ large.height) ∧
      (littleAfter.pixels.toList = bigAfter.snapshot.crop small ∧
        littleAfter.cursor = bigAfter.cursor ∧ littleAfter.received = bigAfter.received ∧
        littleAfter.dirty = bigAfter.dirty ∧ little.replies actions = big.replies actions) ∧
      littleAfter.pixels[62]? = some 255 ∧ bigAfter.cursor = ⟨1, 1⟩ ∧
      (big.replies actions).map Reply.notified = [0, 1, 0, 1, 1, 0] := by
  intro small large actions little big littleAfter bigAfter
  have alike := actAll_crop small large (by decide) (by decide) true actions
  exact ⟨⟨by decide, by decide⟩, alike, by decide +kernel, rfl, rfl⟩

end Panel

end PanelLink
