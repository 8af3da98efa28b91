/-
This file draws with a guard at every access to the pixel buffer. Guarded drawing goes
through the pixels one by one and stops at an edge of the panel, as a program does that
knows nothing but its buffer: every sum and product has to be a machine word, every pixel
that is written has to be in the buffer, and so has every run that is blanked. Where this
is not so, guarded drawing fails.

It never does, provided that the number of pixels is a machine word. On such a panel
guarded drawing does exactly what the strokes of a change do, whatever is drawn and
wherever the cursor is. The buffer keeps its size, and every pixel in it is dark or lit.
-/

import PanelLink.Proofs.Clipping

namespace PanelLink

/-- The measures of a panel and the number of its pixels are machine words. -/
structure Geometry.Fits (geometry : Geometry) : Prop where
  width : geometry.width < UInt64.size
  height : geometry.height < UInt64.size
  pixelCount : geometry.pixelCount < UInt64.size

/-! ### Guarded drawing -/

namespace Guarded

/-- A machine word of 64 bits, unless the number is too large for it. -/
def word? (number : Nat) : Option Nat :=
  if number < UInt64.size then some number else none

/-- The length of a buffer in bytes. No buffer is as long as half of the machine words. -/
def room? (length : Nat) : Option Nat :=
  if 2 * length < UInt64.size then some length else none

/-- Writes one pixel, which has to be in the buffer. -/
def put? (geometry : Geometry) (x y : Nat) (value : UInt8) (pixels : Array UInt8) :
    Option (Array UInt8) := do
  let line ← word? (y * geometry.width)
  let index ← word? (line + x)
  if inside : index < pixels.size then some (pixels.set index value inside) else none

/-- Blanks a run, which has to be a part of the buffer even if it is empty. -/
def fill? (start stop : Nat) (pixels : Array UInt8) : Option (Array UInt8) :=
  if start ≤ stop ∧ stop ≤ pixels.size then
    some (Stroke.paint pixels (Stroke.blankRun start (stop - start)))
  else none

/-- Draws items at one place after the other, and stops at an edge. -/
def sweep? {Item : Type} (edge : Nat) (draw? : Nat → Item → Array UInt8 → Option (Array UInt8)) :
    Nat → List Item → Array UInt8 → Option (Array UInt8)
  | _, [], pixels => some pixels
  | place, item :: rest, pixels => do
    let place ← word? place
    if edge ≤ place then some pixels
    else
      let drawn ← draw? place item pixels
      sweep? edge draw? (place + 1) rest drawn

/-- Draws a character into its cell, line by line. -/
def cell? (geometry : Geometry) (mode : TextMode) (row column : UInt16) (character : Char)
    (pixels : Array UInt8) : Option (Array UInt8) := do
  let left ← word? (column.toNat * cellWidth)
  let top ← word? (row.toNat * cellHeight)
  sweep? geometry.height (fun y down =>
    sweep? geometry.width (fun x across =>
      put? geometry x y (Stroke.shade (Stroke.inCell mode character across down)))
      left (List.range cellWidth)) top (List.range cellHeight) pixels

/-- Draws a text from left to right. -/
def text? (geometry : Geometry) (mode : TextMode) (row : UInt16) :
    UInt16 → List Char → Array UInt8 → Option (Array UInt8)
  | _, [], pixels => some pixels
  | column, character :: rest, pixels => do
    let drawn ← cell? geometry mode row column character pixels
    text? geometry mode row (Stroke.nextColumn column) rest drawn

/-- Draws column bytes side by side, each from the top down. -/
def columns? (geometry : Geometry) (row column : UInt16) (bytes : List UInt8)
    (pixels : Array UInt8) : Option (Array UInt8) := do
  let left ← word? (column.toNat * cellWidth)
  let top ← word? (row.toNat * cellHeight)
  sweep? geometry.width (fun x byte =>
    sweep? geometry.height (fun y bit => put? geometry x y (Stroke.shade (Font.bit byte bit)))
      top (List.range cellHeight)) left bytes pixels

/-- Blanks a row of cells as one run of the buffer. -/
def blankRow? (geometry : Geometry) (row : UInt16) (pixels : Array UInt8) :
    Option (Array UInt8) := do
  let place ← word? (row.toNat * cellHeight)
  let top := min place geometry.height
  let below ← word? (top + cellHeight)
  let bottom := min below geometry.height
  let start ← word? (top * geometry.width)
  let stop ← word? (bottom * geometry.width)
  fill? start stop pixels

end Guarded

namespace Panel

/-- The picture that a change leads to, if no guard stops it. -/
def drawn? (panel : Panel) : Change → Option (Array UInt8)
  | .writeAt text row column mode =>
    Guarded.text? panel.geometry mode row column text panel.pixels
  | .write text mode =>
    Guarded.text? panel.geometry mode panel.cursor.row panel.cursor.column text panel.pixels
  | .columns bytes =>
    Guarded.columns? panel.geometry panel.cursor.row panel.cursor.column bytes panel.pixels
  | .moveCursor .. => some panel.pixels
  | .clearAll | .reset => Guarded.fill? 0 panel.pixels.size panel.pixels
  | .clearRow row => Guarded.blankRow? panel.geometry row panel.pixels

def changed? (panel : Panel) (change : Change) : Option Panel :=
  (panel.drawn? change).map fun pixels => { panel.changed change with pixels }

/-- The panel after an action, if no guard stops it. -/
def act? (panel : Panel) : Action → Option Panel
  | .perform change => panel.changed? change
  | .apply command =>
    match panel.changeFor? command.payload with
    | some change => panel.changed? change
    | none => some panel
  | .takeDirty => some panel.takeDirty.1
  | .setResetOnClear enabled => some (panel.setResetOnClear enabled)
  | .listen name => some (panel.listen name)

/-- The panel after actions in order, if no guard stops any of them. -/
def actAll? (panel : Panel) (actions : List Action) : Option Panel :=
  actions.foldlM act? panel

end Panel

/-! ### Guards that never stop -/

namespace Guarded

/-- On every buffer of a size guarded drawing succeeds, and does what the strokes do. -/
def Paints (size : Nat) (draw? : Array UInt8 → Option (Array UInt8)) (strokes : List Stroke) :
    Prop :=
  ∀ pixels : Array UInt8, pixels.size = size → draw? pixels = some (Stroke.paint pixels strokes)

theorem word?_of_lt {number : Nat} (small : number < UInt64.size) : word? number = some number :=
  if_pos small

/-- What there is room for is a machine word. -/
theorem word?_bind_room? (length : Nat) : (word? length).bind room? = room? length := by
  rw [word?]
  split
  · rfl
  · rename_i large
    exact (if_neg fun short => large (by omega)).symm

theorem paints_nothing (size : Nat) : Paints size some [] :=
  fun _ _ => rfl

theorem Paints.append {size : Nat} {first? second? : Array UInt8 → Option (Array UInt8)}
    {strokes more : List Stroke} (first : Paints size first? strokes)
    (second : Paints size second? more) :
    Paints size (fun pixels => first? pixels >>= second?) (strokes ++ more) := by
  intro pixels full
  have kept : (Stroke.paint pixels strokes).size = size := (Panel.size_paint _ _).trans full
  show first? pixels >>= second? = _
  rw [first pixels full]
  show second? (Stroke.paint pixels strokes) = _
  rw [second _ kept, Stroke.paint, Stroke.paint, Stroke.paint, List.foldl_append]

/-! ### Sweeps -/

/-- The strokes of items that stand side by side. -/
def along {Item : Type} (strokes : Nat → Item → List Stroke) : Nat → List Item → List Stroke
  | _, [] => []
  | place, item :: rest => strokes place item ++ along strokes (place + 1) rest

theorem along_eq_nil {Item : Type} {strokes : Nat → Item → List Stroke} {start : Nat}
    (past : ∀ place item, start ≤ place → strokes place item = []) (items : List Item) :
    along strokes start items = [] := by
  induction items generalizing start with
  | nil => rfl
  | cons item rest inductionHypothesis =>
    rw [along, past start item (Nat.le_refl start),
      inductionHypothesis fun place other after => past place other (Nat.le_of_succ_le after)]
    rfl

/-- A sweep stops where nothing is left to draw, and before it gets out of the machine words. -/
theorem paints_sweep {Item : Type} {size edge place : Nat}
    {draw? : Nat → Item → Array UInt8 → Option (Array UInt8)}
    {strokes : Nat → Item → List Stroke} (bounded : edge < UInt64.size)
    (start : place < UInt64.size)
    (inside : ∀ place item, place < edge → Paints size (draw? place item) (strokes place item))
    (past : ∀ place item, edge ≤ place → strokes place item = []) (items : List Item) :
    Paints size (sweep? edge draw? place items) (along strokes place items) := by
  induction items generalizing place with
  | nil => exact paints_nothing size
  | cons item rest inductionHypothesis =>
    intro pixels full
    rw [sweep?, word?_of_lt start]
    show (if edge ≤ place then some pixels else _) = _
    by_cases beyond : edge ≤ place
    · rw [if_pos beyond,
        along_eq_nil fun place other after => past place other (Nat.le_trans beyond after)]
      rfl
    · rw [if_neg beyond]
      exact (inside place item (by omega)).append (inductionHypothesis (by omega)) pixels full

/-- Along offsets from a start the strokes are those of each offset. -/
theorem along_range' (strokes : Nat → Nat → List Stroke) (start first count : Nat) :
    along strokes (start + first) (List.range' first count) =
      (List.range' first count).flatMap fun offset => strokes (start + offset) offset := by
  induction count generalizing first with
  | zero => rfl
  | succ count inductionHypothesis =>
    rw [List.range'_succ, along, List.flatMap_cons, Nat.add_assoc, inductionHypothesis]

theorem along_range (strokes : Nat → Nat → List Stroke) (start count : Nat) :
    along strokes start (List.range count) =
      (List.range count).flatMap fun offset => strokes (start + offset) offset := by
  rw [List.range_eq_range']
  exact along_range' strokes start 0 count

/-! ### Drawing on a panel that fits -/

section Fits

variable {geometry : Geometry} (fits : geometry.Fits)

include fits

/-- The start of a line of the buffer, or its end, is a machine word. -/
theorem line_lt {y : Nat} (above : y ≤ geometry.height) :
    y * geometry.width ≤ geometry.pixelCount ∧ y * geometry.width < UInt64.size := by
  have bound : y * geometry.width ≤ geometry.pixelCount := by
    rw [Geometry.pixelCount, Nat.mul_comm geometry.width]
    exact Nat.mul_le_mul_right _ above
  exact ⟨bound, Nat.lt_of_le_of_lt bound fits.pixelCount⟩

/-- A pixel of the panel is in the buffer. -/
theorem paints_put {x y : Nat} (inside : x < geometry.width) (above : y < geometry.height)
    (lit : Bool) :
    Paints geometry.pixelCount (put? geometry x y (Stroke.shade lit))
      (Stroke.at? geometry x y lit).toList := by
  intro pixels full
  have start := line_lt fits (Nat.le_of_lt above)
  have index := Geometry.index_lt_pixelCount inside above
  have bound : y * geometry.width + x < pixels.size := full ▸ index
  have small : y * geometry.width + x < UInt64.size := Nat.lt_trans index fits.pixelCount
  have stroke : Stroke.at? geometry x y lit = some ⟨y * geometry.width + x, Stroke.shade lit⟩ := by
    rw [Stroke.at?, Geometry.index?, if_pos ⟨inside, above⟩]
    rfl
  rw [put?, word?_of_lt start.2]
  show (word? (y * geometry.width + x) >>= _) = _
  rw [word?_of_lt small, stroke]
  show (if _ : _ then some _ else none) = _
  rw [dif_pos bound]
  show _ = some (pixels.setIfInBounds _ _)
  rw [Array.setIfInBounds, dif_pos bound]

omit fits in
/-- The first pixel of a cell is at a machine word. -/
theorem cellPlace_lt (place : UInt16) {size : Nat} (small : size ≤ 8) :
    place.toNat * size < UInt64.size := by
  have bound := place.toNat_lt
  have product : place.toNat * size ≤ 65535 * 8 := Nat.mul_le_mul (by omega) small
  have word : 65535 * 8 < UInt64.size := by decide
  omega

omit fits in
theorem at?_of_outside {x y : Nat} (outside : geometry.width ≤ x ∨ geometry.height ≤ y)
    (lit : Bool) : (Stroke.at? geometry x y lit).toList = [] := by
  rw [Stroke.at?, Geometry.index?, if_neg (by omega)]
  rfl

theorem paints_cell (mode : TextMode) (row column : UInt16) (character : Char) :
    Paints geometry.pixelCount (cell? geometry mode row column character)
      (Stroke.ofCell geometry mode row column character) := by
  have left := cellPlace_lt column (by decide : cellWidth ≤ 8)
  have top := cellPlace_lt row (by decide : cellHeight ≤ 8)
  have line (y down : Nat) (above : y < geometry.height) := paints_sweep fits.width left
    (fun x across inside => paints_put fits inside above (Stroke.inCell mode character across down))
    (fun x across beyond => at?_of_outside (.inl beyond) _) (List.range cellWidth)
  have cell := paints_sweep fits.height top line
    (fun y down beyond => along_eq_nil (fun x across _ => at?_of_outside (.inr beyond) _) _)
    (List.range cellHeight)
  simp only [along_range, ← List.filterMap_eq_flatMap_toList] at cell
  intro pixels full
  rw [cell?, word?_of_lt left, word?_of_lt top]
  exact cell pixels full

theorem paints_text (mode : TextMode) (row column : UInt16) (text : List Char) :
    Paints geometry.pixelCount (text? geometry mode row column text)
      (Stroke.ofText geometry mode row column text) := by
  induction text generalizing column with
  | nil => exact paints_nothing _
  | cons character rest inductionHypothesis =>
    exact (paints_cell fits mode row column character).append (inductionHypothesis _)

omit fits in
theorem ofColumns_eq_along (top left : Nat) (bytes : List UInt8) :
    Stroke.ofColumns geometry top left bytes =
      along (fun x byte => Stroke.ofColumn geometry x top byte) left bytes := by
  induction bytes generalizing left with
  | nil => rfl
  | cons byte rest inductionHypothesis => rw [Stroke.ofColumns, along, inductionHypothesis]

theorem paints_columns (row column : UInt16) (bytes : List UInt8) :
    Paints geometry.pixelCount (columns? geometry row column bytes)
      (Stroke.ofColumns geometry (row.toNat * cellHeight) (column.toNat * cellWidth) bytes) := by
  have left := cellPlace_lt column (by decide : cellWidth ≤ 8)
  have top := cellPlace_lt row (by decide : cellHeight ≤ 8)
  have column (x : Nat) (byte : UInt8) (inside : x < geometry.width) := paints_sweep fits.height top
    (fun y bit above => paints_put fits inside above (Font.bit byte bit))
    (fun y bit beyond => at?_of_outside (.inr beyond) _) (List.range cellHeight)
  have columns := paints_sweep fits.width left column
    (fun x byte beyond => along_eq_nil (fun y bit _ => at?_of_outside (.inl beyond) _) _) bytes
  simp only [along_range, ← List.filterMap_eq_flatMap_toList] at columns
  intro pixels full
  rw [columns?, word?_of_lt left, word?_of_lt top, ofColumns_eq_along]
  exact columns pixels full

omit fits in
theorem paints_fill {start stop : Nat} (ordered : start ≤ stop)
    (inside : stop ≤ geometry.pixelCount) :
    Paints geometry.pixelCount (fill? start stop) (Stroke.blankRun start (stop - start)) := by
  intro pixels full
  rw [fill?, if_pos ⟨ordered, full ▸ inside⟩]

/-- A row of cells is blanked as a part of the buffer, also where it is off the panel and the part
is empty. -/
theorem paints_blankRow (row : UInt16) :
    Paints geometry.pixelCount (blankRow? geometry row) (Stroke.blankRow geometry row) := by
  have place := cellPlace_lt row (by decide : cellHeight ≤ 8)
  let top := min (row.toNat * cellHeight) geometry.height
  let bottom := min (top + cellHeight) geometry.height
  have ordered : top ≤ bottom := Nat.le_min.mpr ⟨Nat.le_add_right _ _, Nat.min_le_right _ _⟩
  have below : top + cellHeight < UInt64.size := by
    have bound := row.toNat_lt
    have product : top ≤ row.toNat * 8 := Nat.min_le_left _ _
    have word : 65536 * 8 < UInt64.size := by decide
    show top + 8 < UInt64.size
    omega
  have start := line_lt fits (Nat.min_le_right (row.toNat * cellHeight) geometry.height)
  have stop := line_lt fits (Nat.min_le_right (top + cellHeight) geometry.height)
  have filled := paints_fill (Nat.mul_le_mul_right geometry.width ordered) stop.1
  rw [← Nat.sub_mul] at filled
  intro pixels full
  rw [blankRow?, word?_of_lt place]
  show (word? (top + cellHeight) >>= _) = _
  rw [word?_of_lt below]
  show (word? (top * geometry.width) >>= _) = _
  rw [word?_of_lt start.2]
  show (word? (bottom * geometry.width) >>= _) = _
  rw [word?_of_lt stop.2]
  exact filled pixels full

end Fits

end Guarded

namespace Panel

/-! ### Changes and runs -/

/-- A change is drawn without any guard stopping it, on every panel with a full buffer. -/
theorem drawn?_eq {panel : Panel} (fits : panel.geometry.Fits)
    (full : panel.pixels.size = panel.geometry.pixelCount) (change : Change) :
    panel.drawn? change = some (panel.changed change).pixels := by
  have all : panel.drawn? .clearAll =
      some (Stroke.paint panel.pixels (Stroke.blankAll panel.geometry)) := by
    rw [drawn?, full]
    exact Guarded.paints_fill (Nat.zero_le _) (Nat.le_refl _) panel.pixels full
  cases change with
  | writeAt text row column mode =>
    exact Guarded.paints_text fits mode row column text panel.pixels full
  | write text mode => exact Guarded.paints_text fits mode _ _ text panel.pixels full
  | columns bytes => exact Guarded.paints_columns fits _ _ bytes panel.pixels full
  | moveCursor row column => rfl
  | clearAll => exact all
  | clearRow row => exact Guarded.paints_blankRow fits row panel.pixels full
  | reset => exact all

theorem changed?_eq {panel : Panel} (fits : panel.geometry.Fits)
    (full : panel.pixels.size = panel.geometry.pixelCount) (change : Change) :
    panel.changed? change = some (panel.changed change) := by
  rw [changed?, drawn?_eq fits full]
  rfl

/-- No guard stops an action, and it does what the plain one does. -/
theorem act?_eq {panel : Panel} (fits : panel.geometry.Fits)
    (full : panel.pixels.size = panel.geometry.pixelCount) (action : Action) :
    panel.act? action = some (panel.act action).1 := by
  cases action with
  | perform change => exact changed?_eq fits full change
  | apply command =>
    simp only [act?, act, apply]
    cases panel.changeFor? command.payload with
    | some change => exact changed?_eq fits full change
    | none => rfl
  | takeDirty => rfl
  | setResetOnClear enabled => rfl
  | listen name => rfl

/-! ### Values -/

/-- A full buffer of dark and lit pixels. -/
structure Plain (panel : Panel) : Prop where
  full : panel.pixels.size = panel.geometry.pixelCount
  shades : ∀ value ∈ panel.pixels, value = 0 ∨ value = 255

theorem shades_paint {pixels : Array UInt8} {strokes : List Stroke}
    (plain : ∀ value ∈ pixels, value = 0 ∨ value = 255)
    (shades : ∀ stroke ∈ strokes, stroke.value = 0 ∨ stroke.value = 255) :
    ∀ value ∈ Stroke.paint pixels strokes, value = 0 ∨ value = 255 := by
  induction strokes generalizing pixels with
  | nil => exact plain
  | cons stroke rest inductionHypothesis =>
    refine inductionHypothesis (fun value member => ?_) fun other member =>
      shades other (List.mem_cons_of_mem _ member)
    rcases Array.mem_or_eq_of_mem_setIfInBounds member with old | rfl
    · exact plain value old
    · exact shades stroke List.mem_cons_self

theorem shade_at? {geometry : Geometry} {x y : Nat} {lit : Bool} {stroke : Stroke}
    (made : Stroke.at? geometry x y lit = some stroke) :
    stroke.value = 0 ∨ stroke.value = 255 := by
  obtain ⟨index, -, rfl⟩ := Option.map_eq_some_iff.mp made
  cases lit with
  | true => exact .inr rfl
  | false => exact .inl rfl

theorem shade_ofText {geometry : Geometry} {mode : TextMode} {row column : UInt16}
    {text : List Char} {stroke : Stroke}
    (made : stroke ∈ Stroke.ofText geometry mode row column text) :
    stroke.value = 0 ∨ stroke.value = 255 := by
  induction text generalizing column with
  | nil => cases made
  | cons character rest inductionHypothesis =>
    rcases List.mem_append.mp made with first | later
    · obtain ⟨y, -, line⟩ := List.mem_flatMap.mp first
      obtain ⟨x, -, pixel⟩ := List.mem_filterMap.mp line
      exact shade_at? pixel
    · exact inductionHypothesis later

theorem shade_ofColumns {geometry : Geometry} {top left : Nat} {bytes : List UInt8}
    {stroke : Stroke} (made : stroke ∈ Stroke.ofColumns geometry top left bytes) :
    stroke.value = 0 ∨ stroke.value = 255 := by
  induction bytes generalizing left with
  | nil => cases made
  | cons byte rest inductionHypothesis =>
    rcases List.mem_append.mp made with first | later
    · obtain ⟨y, -, pixel⟩ := List.mem_filterMap.mp first
      exact shade_at? pixel
    · exact inductionHypothesis later

theorem shade_blankRun {start length : Nat} {stroke : Stroke}
    (made : stroke ∈ Stroke.blankRun start length) : stroke.value = 0 := by
  obtain ⟨offset, -, rfl⟩ := List.mem_map.mp made
  rfl

/-- Whatever the change, its strokes are dark or lit. -/
theorem shade_strokes {panel : Panel} {change : Change} {stroke : Stroke}
    (made : stroke ∈ panel.strokes change) : stroke.value = 0 ∨ stroke.value = 255 := by
  cases change with
  | writeAt text row column mode => exact shade_ofText made
  | write text mode => exact shade_ofText made
  | columns bytes => exact shade_ofColumns made
  | moveCursor row column => cases made
  | clearAll => exact .inl (shade_blankRun made)
  | clearRow row => exact .inl (shade_blankRun made)
  | reset => exact .inl (shade_blankRun made)

theorem plain_blank (geometry : Geometry) : (blank geometry).Plain where
  full := Array.size_replicate
  shades _ member := .inl (Array.eq_of_mem_replicate member)

theorem Plain.changed {panel : Panel} (plain : panel.Plain) (change : Change) :
    (panel.changed change).Plain where
  full := (size_paint _ _).trans plain.full
  shades := shades_paint plain.shades fun _ => shade_strokes

theorem Plain.act {panel : Panel} (plain : panel.Plain) (action : Action) :
    (panel.act action).1.Plain := by
  cases action with
  | perform change => exact plain.changed change
  | apply command =>
    simp only [Panel.act, Panel.apply]
    cases panel.changeFor? command.payload with
    | some change => exact plain.changed change
    | none => exact plain
  | takeDirty => exact ⟨plain.full, plain.shades⟩
  | setResetOnClear enabled => exact ⟨plain.full, plain.shades⟩
  | listen name => exact ⟨plain.full, plain.shades⟩

/-! ### Runs -/

/-- No guard stops a run, and it does what the plain run does. -/
theorem Plain.actAll? {panel : Panel} (plain : panel.Plain) (fits : panel.geometry.Fits)
    (actions : List Action) :
    panel.actAll? actions = some (panel.actAll actions).1 ∧ (panel.actAll actions).1.Plain := by
  induction actions generalizing panel with
  | nil => exact ⟨rfl, plain⟩
  | cons action rest inductionHypothesis =>
    have kept : (panel.act action).1.geometry.Fits := by rwa [geometry_act]
    rw [Panel.actAll?, List.foldlM_cons, act?_eq fits plain.full]
    exact inductionHypothesis (plain.act action) kept

/-- On a panel whose number of pixels is a machine word, no guard ever stops anything. Whatever is
done in whatever order, the guarded run leads to the panel of the plain run, whose buffer holds one
value for each pixel, and each is dark or lit. -/
theorem actAll_guarded (geometry : Geometry) (fits : geometry.Fits) (actions : List Action) :
    let panel := ((blank geometry).actAll actions).1
    (blank geometry).actAll? actions = some panel ∧
      panel.pixels.size = geometry.width * geometry.height ∧
      ∀ value ∈ panel.pixels, value = 0 ∨ value = 255 := by
  obtain ⟨guarded, plain⟩ := (plain_blank geometry).actAll? fits actions
  refine ⟨guarded, ?_, plain.shades⟩
  rw [plain.full, geometry_actAll]
  rfl

/-- A text that runs off a panel of cut cells, and columns and rows that are off it altogether. -/
theorem actAll_guarded_cut_cells :
    Geometry.Fits ⟨7, 9⟩ ∧
    let actions := [.perform (.writeAt ['A', 'B'] 1 0 .inverse), .perform (.clearRow 65535),
      .perform (.moveCursor (some 65535) (some 65535)), .perform (.columns [255])]
    let panel := ((blank ⟨7, 9⟩).actAll actions).1
    (blank ⟨7, 9⟩).actAll? actions = some panel ∧ panel.pixels.size = 63 ∧
      ∀ value ∈ panel.pixels, value = 0 ∨ value = 255 :=
  have fits : Geometry.Fits ⟨7, 9⟩ := ⟨by decide, by decide, by decide⟩
  ⟨fits, actAll_guarded ⟨7, 9⟩ fits _⟩

end Panel

end PanelLink
