/-
This file says what a change of the panel covers, pixel by pixel and as if the panel had
no edges: whether it gives a pixel a value, and which. The strokes of the change are
then compared with that. A pixel may get several strokes of one change, since a text
that reaches the last column goes on in the same cell; the last stroke on it counts.
-/

import Mathlib.Data.List.Basic
import PanelLink.Display.Panel

namespace PanelLink

/-! ### What a change covers -/

namespace Cover

/-- Whether the font has a pixel of a character, counting from the left and from the top of
its cell; it has none of a character without a glyph. -/
def fontBit (character : Char) (x y : Nat) : Bool :=
  if character.toNat < 256 then
    match Font.glyph? (UInt8.ofNat character.toNat) with
    | some glyph => (glyph[x]?.getD 0).toNat.testBit y
    | none => false
  else false

/-- The value of a pixel in the cell of a character. -/
def cell (mode : TextMode) (character : Char) (x y : Nat) : UInt8 :=
  match mode with
  | .normal => if fontBit character x y then 255 else 0
  | .inverse => if fontBit character x y then 0 else 255

/-- The character that a text leaves in a cell of its row. Those past the last column all
fall into its cell, and the last of them stays. -/
def shown? (text : List Char) (column place : Nat) : Option Char :=
  ((text.zipIdx column).filter fun (_, reached) => min 65535 reached = place).getLast?.map Prod.fst

/-- The value that a text gives a pixel. -/
def text? (mode : TextMode) (text : List Char) (row column x y : Nat) : Option UInt8 :=
  if y / cellHeight = row then
    (shown? text column (x / cellWidth)).map fun character =>
      cell mode character (x % cellWidth) (y % cellHeight)
  else none

/-- The value that column bytes give a pixel. -/
def columns? (bytes : List UInt8) (row left x y : Nat) : Option UInt8 :=
  if y / cellHeight = row ∧ left ≤ x then
    bytes[x - left]?.map fun byte => if byte.toNat.testBit (y % cellHeight) then 255 else 0
  else none

theorem shown?_cons (character : Char) (rest : List Char) (column place : Nat) :
    shown? (character :: rest) column place =
      (shown? rest (column + 1) place).or
        (if min 65535 column = place then some character else none) := by
  rw [shown?, List.zipIdx_cons, List.filter_cons]
  by_cases here : min 65535 column = place
  · rw [if_pos (decide_eq_true here), if_pos here, List.getLast?_cons, Option.or_some, shown?]
    cases ((rest.zipIdx (column + 1)).filter
      fun (_, reached) => min 65535 reached = place).getLast? <;> rfl
  · rw [if_neg (by simp [here]), if_neg here, Option.or_none]
    rfl

example : shown? ['a', 'b', 'c'] 65534 65535 = some 'c' := rfl

/-- No glyph reaches into the lowest line of a cell. -/
theorem glyph_lt {code : UInt8} {glyph : List UInt8} (found : Font.glyph? code = some glyph) :
    ∀ byte ∈ glyph, byte.toNat < 128 := by
  have all : ∀ glyph ∈ Font.glyphs, ∀ byte ∈ glyph, byte.toNat < 128 := by decide +kernel
  rw [Font.glyph?] at found
  split at found
  · cases found
  · exact all glyph (Array.mem_of_getElem? found)

theorem fontBit_eq_inGlyph (character : Char) (x : Nat) {y : Nat} (low : y < cellHeight) :
    fontBit character x y = Stroke.inGlyph character x y := by
  rw [fontBit, Stroke.inGlyph, Stroke.code?]
  by_cases small : character.toNat < 256
  · rw [if_pos small, if_pos small]
    show _ = Font.isSet (UInt8.ofNat character.toNat) x y
    rw [Font.isSet]
    cases found : Font.glyph? (UInt8.ofNat character.toNat) with
    | none => exact (ite_self false).symm
    | some glyph =>
      simp only [Option.bind_some]
      cases column : glyph[x]? with
      | none => exact (Nat.zero_testBit y).trans (ite_self false).symm
      | some byte =>
        by_cases high : y < Font.glyphHeight
        · rw [if_pos high]
          rfl
        · have last : y = 7 := Nat.le_antisymm (Nat.le_of_lt_succ low) (Nat.not_lt.mp high)
          have dark := glyph_lt found byte (List.mem_of_getElem? column)
          rw [if_neg high, last]
          exact Nat.testBit_lt_two_pow dark
  · rw [if_neg small, if_neg small]

theorem cell_eq_shade (mode : TextMode) (character : Char) (x : Nat) {y : Nat}
    (low : y < cellHeight) :
    cell mode character x y = Stroke.shade (Stroke.inCell mode character x y) := by
  cases mode with
  | normal =>
    rw [cell, fontBit_eq_inGlyph character x low]
    rfl
  | inverse =>
    rw [cell, fontBit_eq_inGlyph character x low, Stroke.inCell]
    cases Stroke.inGlyph character x y <;> rfl

end Cover

/-- The value that a change gives a pixel, if it covers the pixel at all. -/
def Change.cover? (cursor : Cursor) (x y : Nat) : Change → Option UInt8
  | .writeAt text row column mode => Cover.text? mode text row.toNat column.toNat x y
  | .write text mode => Cover.text? mode text cursor.row.toNat cursor.column.toNat x y
  | .columns bytes => Cover.columns? bytes cursor.row.toNat (cursor.column.toNat * cellWidth) x y
  | .moveCursor .. => none
  | .clearAll | .reset => some 0
  | .clearRow row => if y / cellHeight = row.toNat then some 0 else none

namespace Stroke

/-! ### The last stroke on a place -/

/-- The value that strokes leave at a place of the buffer, if any of them is there. -/
def lastAt (index : Nat) : List Stroke → Option UInt8
  | [] => none
  | stroke :: rest => (lastAt index rest).or (if stroke.index = index then some stroke.value else none)

theorem lastAt_append (index : Nat) (front back : List Stroke) :
    lastAt index (front ++ back) = (lastAt index back).or (lastAt index front) := by
  induction front with
  | nil => exact (Option.or_none).symm
  | cons stroke rest inductionHypothesis =>
    rw [List.cons_append, lastAt, inductionHypothesis, Option.or_assoc]
    rfl

/-- Painting leaves what the last stroke put there, and where there is none what was there. -/
theorem getElem?_paint (pixels : Array UInt8) (strokes : List Stroke) (index : Nat) :
    (paint pixels strokes)[index]? =
      pixels[index]?.map fun old => (lastAt index strokes).getD old := by
  induction strokes generalizing pixels with
  | nil => exact Option.map_id'.symm
  | cons stroke rest inductionHypothesis =>
    show (paint (pixels.setIfInBounds stroke.index stroke.value) rest)[index]? = _
    rw [inductionHypothesis, Array.getElem?_setIfInBounds, lastAt]
    by_cases same : stroke.index = index
    · rw [if_pos same, if_pos same, same]
      cases lastAt index rest <;> by_cases bound : index < pixels.size <;> simp [bound]
    · rw [if_neg same, if_neg same, Option.or_none]

/-- If at most one of a range of stroke lists is on a place, that list decides. -/
theorem lastAt_flatMap_range (index count place : Nat) (strokes : Nat → List Stroke)
    (others : ∀ step, step ≠ place → lastAt index (strokes step) = none) :
    lastAt index ((List.range count).flatMap strokes) =
      if place < count then lastAt index (strokes place) else none := by
  induction count with
  | zero => rfl
  | succ count inductionHypothesis =>
    rw [List.range_succ, List.flatMap_append, lastAt_append, inductionHypothesis,
      List.flatMap_singleton]
    by_cases same : place = count
    · rw [if_neg (by omega), Option.or_none, if_pos (by omega), same]
    · rw [others count (Ne.symm same), Option.none_or]
      by_cases before : place < count
      · rw [if_pos before, if_pos (by omega)]
      · rw [if_neg before, if_neg (by omega)]

theorem toNat_nextColumn (column : UInt16) :
    (nextColumn column).toNat = min 65535 (column.toNat + 1) := by
  have bound := column.toNat_lt
  rw [nextColumn]
  split
  · rename_i last
    rw [last]
    rfl
  · rename_i before
    have less : column.toNat ≠ 65535 := fun same => before (UInt16.toNat_inj.mp same)
    rw [UInt16.toNat_add, UInt16.toNat_one, Nat.mod_eq_of_lt (by omega)]
    omega

theorem lastAt_blankRun (index start length : Nat) :
    lastAt index (blankRun start length) =
      if start ≤ index ∧ index < start + length then some 0 else none := by
  induction length with
  | zero =>
    rw [if_neg (by omega)]
    rfl
  | succ length inductionHypothesis =>
    have longer : blankRun start (length + 1) = blankRun start length ++ [⟨start + length, 0⟩] := by
      rw [blankRun, List.range_succ, List.map_append]
      rfl
    rw [longer, lastAt_append, inductionHypothesis]
    show (none.or (if start + length = index then some 0 else none)).or _ = _
    rw [Option.none_or]
    by_cases last : start + length = index
    · rw [if_pos last, Option.some_or, if_pos (by omega)]
    · rw [if_neg last, Option.none_or]
      exact if_congr (by omega) rfl rfl

/-! ### Places of pixels -/

/-- A place is in a part of the given size if its offset there is. -/
theorem offset_iff {size : Nat} (positive : 0 < size) (place part : Nat) :
    place - part * size < size ∧ part * size + (place - part * size) = place ↔
      place / size = part := by
  rw [Nat.div_eq_iff positive]
  omega

theorem offset_eq_mod {size place part : Nat} (same : place / size = part) :
    place - part * size = place % size := by
  rw [← same, Nat.mul_comm, Nat.mod_eq_sub]

section Pixel

variable {geometry : Geometry} {x y : Nat} (inside : x < geometry.width)

include inside

/-- Different pixels of a panel have different places. -/
theorem place_inj {otherX otherY : Nat} (otherInside : otherX < geometry.width) :
    otherY * geometry.width + otherX = y * geometry.width + x ↔ otherX = x ∧ otherY = y := by
  constructor
  · intro same
    have column : otherX = x := by
      rw [← Nat.mul_add_mod_of_lt otherInside, same, Nat.mul_add_mod_of_lt inside]
    rw [column, Nat.add_right_cancel_iff] at same
    exact ⟨column, Nat.eq_of_mul_eq_mul_right (Nat.zero_lt_of_lt inside) same⟩
  · rintro ⟨rfl, rfl⟩
    rfl

/-- Blanking whole lines of the buffer covers the pixels in these lines. -/
theorem lastAt_blankLines (top bottom : Nat) :
    lastAt (y * geometry.width + x)
        (blankRun (top * geometry.width) ((bottom - top) * geometry.width)) =
      if top ≤ y ∧ y < bottom then some 0 else none := by
  have positive : 0 < geometry.width := Nat.zero_lt_of_lt inside
  have line : (y * geometry.width + x) / geometry.width = y := by
    rw [Nat.mul_comm, Nat.mul_add_div positive, Nat.div_eq_of_lt inside, Nat.add_zero]
  have first : top * geometry.width ≤ y * geometry.width + x ↔ top ≤ y := by
    rw [← Nat.le_div_iff_mul_le positive, line]
  have last : y * geometry.width + x < bottom * geometry.width ↔ y < bottom := by
    rw [← Nat.div_lt_iff_lt_mul positive, line]
  rw [lastAt_blankRun, Nat.sub_mul]
  exact if_congr (by omega) rfl rfl

variable (above : y < geometry.height)

include above

/-- The stroke for a pixel is on that pixel alone, and is made if the pixel is on the panel. -/
theorem lastAt_at? (otherX otherY : Nat) (lit : Bool) :
    lastAt (y * geometry.width + x) (at? geometry otherX otherY lit).toList =
      if otherX = x ∧ otherY = y then some (shade lit) else none := by
  rw [at?, Geometry.index?]
  by_cases on : otherX < geometry.width ∧ otherY < geometry.height
  · rw [if_pos on]
    show none.or (if _ then some (shade lit) else none) = _
    rw [Option.none_or]
    exact if_congr (place_inj inside on.1) rfl rfl
  · rw [if_neg on, if_neg]
    · rfl
    · rintro ⟨rfl, rfl⟩
      exact on ⟨inside, above⟩

/-- Of a strip of pixels at different places, the one at the place decides. -/
theorem lastAt_strip (count place : Nat) (across down : Nat → Nat) (lit : Nat → Bool)
    (only : ∀ step, across step = x ∧ down step = y → step = place) :
    lastAt (y * geometry.width + x)
        ((List.range count).filterMap fun step =>
          at? geometry (across step) (down step) (lit step)) =
      if place < count ∧ across place = x ∧ down place = y then some (shade (lit place))
      else none := by
  have others (step : Nat) (other : step ≠ place) : lastAt (y * geometry.width + x)
      (at? geometry (across step) (down step) (lit step)).toList = none := by
    rw [lastAt_at? inside above, if_neg (mt (only step) other)]
  rw [List.filterMap_eq_flatMap_toList, lastAt_flatMap_range _ _ _ _ others,
    lastAt_at? inside above, ← ite_and]

theorem lastAt_ofColumn (left row : Nat) (byte : UInt8) :
    lastAt (y * geometry.width + x) (ofColumn geometry left (row * cellHeight) byte) =
      if left = x ∧ y / cellHeight = row then some (shade (Font.bit byte (y % cellHeight)))
      else none := by
  have strip := lastAt_strip inside above cellHeight (y - row * cellHeight) (fun _ => left)
    (row * cellHeight + ·) (Font.bit byte) (by omega)
  rw [ofColumn, strip]
  refine ite_congr (propext ?_) (fun covered => ?_) fun _ => rfl
  · rw [and_left_comm, offset_iff (by decide)]
  · rw [offset_eq_mod covered.2]

/-- A character covers its cell. -/
theorem lastAt_ofCell (mode : TextMode) (row column : UInt16) (character : Char) :
    lastAt (y * geometry.width + x) (ofCell geometry mode row column character) =
      if x / cellWidth = column.toNat ∧ y / cellHeight = row.toNat then
        some (shade (inCell mode character (x % cellWidth) (y % cellHeight)))
      else none := by
  have line (step : Nat) := lastAt_strip inside above cellWidth (x - column.toNat * cellWidth)
    (column.toNat * cellWidth + ·) (fun _ => row.toNat * cellHeight + step)
    (inCell mode character · step) (by omega)
  have others (step : Nat) (other : step ≠ y - row.toNat * cellHeight) :
      lastAt (y * geometry.width + x) ((List.range cellWidth).filterMap fun across =>
        at? geometry (column.toNat * cellWidth + across) (row.toNat * cellHeight + step)
          (inCell mode character across step)) = none := by
    rw [line, if_neg]
    omega
  rw [ofCell, lastAt_flatMap_range _ _ _ _ others, line, ← ite_and]
  refine ite_congr (propext ?_) (fun covered => ?_) fun _ => rfl
  · rw [← offset_iff (by decide) x, ← offset_iff (by decide) y]
    constructor
    · rintro ⟨low, near, column, row⟩
      exact ⟨⟨near, column⟩, low, row⟩
    · rintro ⟨⟨near, column⟩, low, row⟩
      exact ⟨low, near, column, row⟩
  · rw [offset_eq_mod covered.1, offset_eq_mod covered.2]

/-- Column bytes cover what they are said to cover. -/
theorem lastAt_ofColumns (row : Nat) (left : Nat) (bytes : List UInt8) :
    lastAt (y * geometry.width + x) (ofColumns geometry (row * cellHeight) left bytes) =
      Cover.columns? bytes row left x y := by
  induction bytes generalizing left with
  | nil => exact (ite_self none).symm
  | cons byte rest inductionHypothesis =>
    rw [ofColumns, lastAt_append, inductionHypothesis, lastAt_ofColumn inside above,
      Cover.columns?, Cover.columns?]
    by_cases level : y / cellHeight = row
    · rcases Nat.lt_trichotomy left x with before | here | after
      · have past : x - left = x - (left + 1) + 1 := by omega
        rw [if_pos ⟨level, before⟩, if_neg (fun other => Nat.ne_of_lt before other.1),
          Option.or_none, if_pos ⟨level, Nat.le_of_lt before⟩, past, List.getElem?_cons_succ]
      · rw [if_neg (by omega), Option.none_or, if_pos ⟨here, level⟩,
          if_pos ⟨level, Nat.le_of_eq here⟩, here, Nat.sub_self]
        rfl
      · rw [if_neg (by omega), Option.none_or, if_neg (by omega), if_neg (by omega)]
    · rw [if_neg (fun both => level both.1), if_neg (fun both => level both.2),
        if_neg (fun both => level both.1)]
      rfl

/-- A text covers what it is said to cover. -/
theorem lastAt_ofText (mode : TextMode) (row column : UInt16) (text : List Char) (reached : Nat)
    (same : column.toNat = min 65535 reached) :
    lastAt (y * geometry.width + x) (ofText geometry mode row column text) =
      Cover.text? mode text row.toNat reached x y := by
  induction text generalizing column reached with
  | nil => exact (ite_self none).symm
  | cons character rest inductionHypothesis =>
    have next : (nextColumn column).toNat = min 65535 (reached + 1) := by
      rw [toNat_nextColumn, same]
      omega
    rw [ofText, lastAt_append, inductionHypothesis _ _ next, lastAt_ofCell inside above,
      Cover.text?, Cover.text?, same]
    by_cases level : y / cellHeight = row.toNat
    · rw [if_pos level, if_pos level, Cover.shown?_cons, Option.map_or]
      by_cases here : min 65535 reached = x / cellWidth
      · rw [if_pos ⟨here.symm, level⟩, if_pos here, Option.map_some,
          Cover.cell_eq_shade mode character _ (Nat.mod_lt y (by decide))]
      · rw [if_neg (fun both => here both.1.symm), if_neg here]
        rfl
    · rw [if_neg level, if_neg level, if_neg (fun both => level both.2)]
      rfl

theorem lastAt_blankRow (row : UInt16) :
    lastAt (y * geometry.width + x) (blankRow geometry row) =
      if y / cellHeight = row.toNat then some 0 else none := by
  rw [blankRow, lastAt_blankLines inside]
  refine if_congr ?_ rfl rfl
  simp only [cellHeight]
  omega

theorem lastAt_blankAll : lastAt (y * geometry.width + x) (blankAll geometry) = some 0 := by
  have lines : blankAll geometry =
      blankRun (0 * geometry.width) ((geometry.height - 0) * geometry.width) := by
    rw [Nat.zero_mul, Nat.sub_zero, Nat.mul_comm]
    rfl
  rw [lines, lastAt_blankLines inside, if_pos ⟨Nat.zero_le y, above⟩]

end Pixel

end Stroke

/-- Every pixel of a panel has a place in a buffer of as many places as there are pixels. -/
theorem Geometry.index_lt_pixelCount {geometry : Geometry} {x y : Nat}
    (beside : x < geometry.width) (below : y < geometry.height) :
    y * geometry.width + x < geometry.pixelCount :=
  calc y * geometry.width + x
    _ < (y + 1) * geometry.width := by rw [Nat.add_one_mul]; exact Nat.add_lt_add_left beside _
    _ ≤ geometry.height * geometry.width := Nat.mul_le_mul_right _ below
    _ = geometry.pixelCount := Nat.mul_comm _ _

/-! ### Changes -/

namespace Panel

/-- The strokes of a change cover what the change is said to cover. -/
theorem lastAt_strokes (panel : Panel) (change : Change) {x y : Nat}
    (inside : x < panel.geometry.width) (above : y < panel.geometry.height) :
    Stroke.lastAt (y * panel.geometry.width + x) (panel.strokes change) =
      change.cover? panel.cursor x y := by
  have bounded (column : UInt16) : column.toNat = min 65535 column.toNat := by
    have bound := column.toNat_lt
    omega
  cases change with
  | writeAt text row column mode =>
    exact Stroke.lastAt_ofText inside above mode row column text _ (bounded column)
  | write text mode =>
    exact Stroke.lastAt_ofText inside above mode _ _ text _ (bounded panel.cursor.column)
  | columns bytes => exact Stroke.lastAt_ofColumns inside above _ _ bytes
  | moveCursor row column => rfl
  | clearAll => exact Stroke.lastAt_blankAll inside above
  | clearRow row => exact Stroke.lastAt_blankRow inside above row
  | reset => exact Stroke.lastAt_blankAll inside above

/-- A change gives every pixel that it covers its value, and leaves all others. -/
theorem pixel?_changed (panel : Panel) (change : Change) (x y : Nat) :
    (panel.changed change).snapshot.pixel? x y =
      (panel.snapshot.pixel? x y).map fun old => (change.cover? panel.cursor x y).getD old := by
  show (panel.geometry.index? x y).bind ((Stroke.paint panel.pixels (panel.strokes change))[·]?) =
    ((panel.geometry.index? x y).bind (panel.pixels[·]?)).map _
  rw [Geometry.index?]
  by_cases on : x < panel.geometry.width ∧ y < panel.geometry.height
  · rw [if_pos on, Option.bind_some, Option.bind_some, Stroke.getElem?_paint,
      lastAt_strokes panel change on.1 on.2]
  · rw [if_neg on]
    rfl

/-- All pixels of a blank panel are dark. -/
theorem pixel?_blank (geometry : Geometry) (x y : Nat) :
    (blank geometry).snapshot.pixel? x y =
      if x < geometry.width ∧ y < geometry.height then some 0 else none := by
  show (geometry.index? x y).bind ((Array.replicate geometry.pixelCount 0)[·]?) = _
  rw [Geometry.index?]
  by_cases on : x < geometry.width ∧ y < geometry.height
  · rw [if_pos on, if_pos on, Option.bind_some, Array.getElem?_replicate,
      if_pos (Geometry.index_lt_pixelCount on.1 on.2)]
  · rw [if_neg on, if_neg on]
    rfl

end Panel

end PanelLink
