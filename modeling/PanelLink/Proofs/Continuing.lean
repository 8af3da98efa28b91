/-
This file writes a text in pieces. The first piece is written from a cell on, and every other
one at the cursor that the piece before it left. The picture and the cursor are those of the
whole text written at once, and only the count of orders tells the two apart, also where the
text reaches the last column and its characters are drawn over each other.

A text may be written by counting its characters: each is drawn as many columns behind the
first as were counted before it, and neither the count nor the column goes past the last
number of 16 bits. Counting from the first column and going on from column to column is the
same, since a sum that stops at the last number does not depend on how it is grouped.
-/

import Mathlib.Data.List.Induction
import PanelLink.Proofs.Upkeep

namespace PanelLink

namespace Stroke

/-! ### Counting -/

/-- The sum of two numbers, or the last number if the sum is past it. -/
def addCapped (first second : UInt16) : UInt16 :=
  if first.toNat + second.toNat ≤ 65535 then first + second else 65535

/-- The number of characters of a text, or the last number if there are more. -/
def counted (text : List Char) : UInt16 :=
  text.foldl (fun count _ => addCapped count 1) 0

/-- The strokes of a text of which some characters were counted already. -/
def ofCounted (geometry : Geometry) (mode : TextMode) (row column : UInt16) :
    UInt16 → List Char → List Stroke
  | _, [] => []
  | count, character :: rest =>
    ofCell geometry mode row (addCapped column count) character ++
      ofCounted geometry mode row column (addCapped count 1) rest

theorem toNat_addCapped (first second : UInt16) :
    (addCapped first second).toNat = min 65535 (first.toNat + second.toNat) := by
  rw [addCapped]
  split
  · rw [UInt16.toNat_add, Nat.mod_eq_of_lt (by omega)]
    omega
  · show 65535 = _
    omega

theorem addCapped_assoc (first second third : UInt16) :
    addCapped (addCapped first second) third = addCapped first (addCapped second third) := by
  apply UInt16.toNat_inj.mp
  simp only [toNat_addCapped]
  omega

theorem addCapped_zero (number : UInt16) : addCapped number 0 = number := by
  have bound := number.toNat_lt
  apply UInt16.toNat_inj.mp
  rw [toNat_addCapped, UInt16.toNat_zero]
  omega

theorem nextColumn_eq (column : UInt16) : nextColumn column = addCapped column 1 := by
  apply UInt16.toNat_inj.mp
  rw [toNat_nextColumn, toNat_addCapped, UInt16.toNat_one]

/-- Going on from column to column draws what counting from the first column draws. -/
theorem ofText_addCapped (geometry : Geometry) (mode : TextMode) (row column count : UInt16)
    (text : List Char) :
    ofText geometry mode row (addCapped column count) text =
      ofCounted geometry mode row column count text := by
  induction text generalizing count with
  | nil => rfl
  | cons character rest inductionHypothesis =>
    rw [ofText, ofCounted, nextColumn_eq, addCapped_assoc, inductionHypothesis]

theorem columnAfter_addCapped (column count : UInt16) (text : List Char) :
    columnAfter (addCapped column count) text =
      addCapped column (text.foldl (fun reached _ => addCapped reached 1) count) := by
  induction text generalizing count with
  | nil => rfl
  | cons character rest inductionHypothesis =>
    rw [List.foldl_cons, ← inductionHypothesis, ← addCapped_assoc, ← nextColumn_eq]
    rfl

-- The last two characters are both in the last column.
example : columnAfter 65534 ['a', 'b', 'c'] = 65535 := rfl

/-! ### Pieces -/

theorem paint_append (pixels : Array UInt8) (front back : List Stroke) :
    paint pixels (front ++ back) = paint (paint pixels front) back :=
  List.foldl_append

theorem columnAfter_append (column : UInt16) (first second : List Char) :
    columnAfter column (first ++ second) = columnAfter (columnAfter column first) second :=
  List.foldl_append

theorem ofText_append (geometry : Geometry) (mode : TextMode) (row column : UInt16)
    (first second : List Char) :
    ofText geometry mode row column (first ++ second) =
      ofText geometry mode row column first ++
        ofText geometry mode row (columnAfter column first) second := by
  induction first generalizing column with
  | nil => rfl
  | cons character rest inductionHypothesis =>
    rw [List.cons_append, ofText, ofText, inductionHypothesis, List.append_assoc]
    rfl

end Stroke

namespace Panel

/-- The panel after a text was written by counting its characters. -/
def writeCounted (panel : Panel) (text : List Char) (row column : UInt16) (mode : TextMode) :
    Panel :=
  { panel with
    pixels := Stroke.paint panel.pixels (Stroke.ofCounted panel.geometry mode row column 0 text)
    cursor := ⟨row, Stroke.addCapped column (Stroke.counted text)⟩
    received := panel.received + 1
    dirty := true }

theorem changed_writeAt (panel : Panel) (text : List Char) (row column : UInt16)
    (mode : TextMode) :
    panel.changed (.writeAt text row column mode) = panel.writeCounted text row column mode := by
  have strokes := Stroke.ofText_addCapped panel.geometry mode row column 0 text
  have cursor := Stroke.columnAfter_addCapped column 0 text
  rw [Stroke.addCapped_zero] at strokes cursor
  show { panel with
    pixels := Stroke.paint panel.pixels (Stroke.ofText panel.geometry mode row column text)
    cursor := ⟨row, Stroke.columnAfter column text⟩
    received := panel.received + 1
    dirty := true } = _
  rw [strokes, cursor]
  rfl

/-- A piece that is written at the cursor goes on with the text before it. -/
theorem changed_write (panel : Panel) (first second : List Char) (row column : UInt16)
    (mode : TextMode) :
    (panel.changed (.writeAt first row column mode)).changed (.write second mode) =
      { panel.changed (.writeAt (first ++ second) row column mode) with
        received := panel.received + 2 } := by
  show { panel with
    pixels := Stroke.paint
      (Stroke.paint panel.pixels (Stroke.ofText panel.geometry mode row column first))
      (Stroke.ofText panel.geometry mode row (Stroke.columnAfter column first) second)
    cursor := ⟨row, Stroke.columnAfter (Stroke.columnAfter column first) second⟩
    received := panel.received + 2
    dirty := true } = _
  rw [← Stroke.paint_append, ← Stroke.ofText_append, ← Stroke.columnAfter_append]
  rfl

/-- Pieces that are written one after the other make the whole text. -/
theorem actAll_writes (panel : Panel) (first : List Char) (row column : UInt16) (mode : TextMode)
    (texts : List (List Char)) :
    (panel.actAll (.perform (.writeAt first row column mode) ::
        texts.map fun text => .perform (.write text mode))).1 =
      { panel.changed (.writeAt (first ++ texts.flatten) row column mode) with
        received := panel.received + 1 + texts.length } := by
  induction texts using List.reverseRecOn with
  | nil =>
    rw [List.flatten_nil, List.append_nil]
    rfl
  | append_singleton front text inductionHypothesis =>
    rw [List.map_append, ← List.cons_append, List.map_singleton, actAll_concat,
      inductionHypothesis, List.flatten_append, List.flatten_singleton, ← List.append_assoc,
      List.length_append]
    have step := changed_write panel (first ++ front.flatten) text row column mode
    exact congrArg (fun reached : Panel =>
      { reached with received := panel.received + 1 + front.length + 1 }) step

/-- On every panel a text that is written at a cell is drawn as its characters are counted, with
neither the count nor the column past the last number of 16 bits. Written in two pieces, the second
at the cursor, it leaves the same picture and the same cursor, and counts as one order more. In any
number of pieces it counts as one order more for each piece after the first. -/
theorem writes_join (panel : Panel) (row column : UInt16) (mode : TextMode) :
    (∀ text, (panel.perform (.writeAt text row column mode)).1 =
      panel.writeCounted text row column mode) ∧
    (∀ first second : List Char,
      let whole := (panel.perform (.writeAt (first ++ second) row column mode)).1
      let parted :=
        ((panel.perform (.writeAt first row column mode)).1.perform (.write second mode)).1
      whole.pixels = parted.pixels ∧ whole.cursor = parted.cursor ∧
        parted.received = whole.received + 1) ∧
    ∀ (first : List Char) (texts : List (List Char)),
      let whole := (panel.perform (.writeAt (first ++ texts.flatten) row column mode)).1
      let parted := (panel.actAll (.perform (.writeAt first row column mode) ::
        texts.map fun text => .perform (.write text mode))).1
      whole.pixels = parted.pixels ∧ whole.cursor = parted.cursor ∧
        parted.received = whole.received + texts.length := by
  refine ⟨fun text => changed_writeAt panel text row column mode, fun first second => ?_,
    fun first texts => ?_⟩
  · intro whole parted
    have joined : parted = { whole with received := panel.received + 2 } :=
      changed_write panel first second row column mode
    rw [joined]
    exact ⟨rfl, rfl, rfl⟩
  · intro whole parted
    have joined : parted = { whole with received := panel.received + 1 + texts.length } :=
      actAll_writes panel first row column mode texts
    rw [joined]
    exact ⟨rfl, rfl, rfl⟩

end Panel

end PanelLink
