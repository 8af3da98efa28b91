/-
This file compares what a text leaves on a panel in the two modes. Both write the same
pixels, which are those of the cells of the text with their margins, and in each of them the
inverse mode leaves the complement of what the normal mode leaves. That is so for characters
without a glyph as well, and for those that fall into one cell at the last column, of which
both modes leave the last one. Since they write the same pixels, neither mode leaves a trace
of the other under it.
-/

import PanelLink.Proofs.Painting

namespace PanelLink

namespace Cover

/-! ### Cells of a text -/

/-- A pixel is in a cell that a text is written to, counting from a cell on. The cells past the
last column are the cell of that column. -/
def InCells (text : List Char) (row column x y : Nat) : Prop :=
  y / cellHeight = row ∧ ∃ place < text.length, x / cellWidth = min 65535 (column + place)

/-- A cell shows a character of a text if some character falls into it. -/
theorem exists_shown?_iff (text : List Char) (column place : Nat) :
    (∃ character, shown? text column place = some character) ↔
      ∃ step < text.length, place = min 65535 (column + step) := by
  induction text generalizing column with
  | nil => exact iff_of_false nofun fun ⟨step, less, _⟩ => absurd less (Nat.not_lt_zero step)
  | cons first rest inductionHypothesis =>
    rw [shown?_cons]
    by_cases later : ∃ character, shown? rest (column + 1) place = some character
    · obtain ⟨step, less, same⟩ := (inductionHypothesis (column + 1)).mp later
      obtain ⟨character, found⟩ := later
      rw [found]
      refine iff_of_true ⟨character, rfl⟩ ⟨step + 1, Nat.succ_lt_succ less, ?_⟩
      rw [same, Nat.add_right_comm, Nat.add_assoc]
    · have none : shown? rest (column + 1) place = none :=
        Option.eq_none_iff_forall_ne_some.mpr (not_exists.mp later)
      rw [none, Option.none_or]
      by_cases here : min 65535 column = place
      · rw [if_pos here]
        exact iff_of_true ⟨first, rfl⟩ ⟨0, Nat.zero_lt_succ _, here.symm⟩
      · rw [if_neg here]
        refine iff_of_false nofun ?_
        rintro ⟨_ | step, less, same⟩
        · exact here same.symm
        · refine later ((inductionHypothesis (column + 1)).mpr
            ⟨step, Nat.lt_of_succ_lt_succ less, ?_⟩)
          rw [same, Nat.add_right_comm, Nat.add_assoc]

/-- In a cell of a text both modes show the same character. -/
theorem text?_of_inCells {text : List Char} {row column x y : Nat}
    (inside : InCells text row column x y) :
    ∃ character, ∀ mode, text? mode text row column x y =
      some (cell mode character (x % cellWidth) (y % cellHeight)) := by
  obtain ⟨level, place⟩ := inside
  obtain ⟨character, found⟩ := (exists_shown?_iff text column (x / cellWidth)).mpr place
  refine ⟨character, fun mode => ?_⟩
  rw [text?, if_pos level, found]
  rfl

theorem text?_of_not_inCells {text : List Char} {row column x y : Nat}
    (outside : ¬ InCells text row column x y) (mode : TextMode) :
    text? mode text row column x y = none := by
  rw [text?]
  split
  · rename_i level
    rw [Option.map_eq_none_iff, Option.eq_none_iff_forall_ne_some]
    intro character found
    exact outside ⟨level, (exists_shown?_iff text column (x / cellWidth)).mp ⟨character, found⟩⟩
  · rfl

/-- The inverse mode complements every pixel of a cell, its margins as well. -/
theorem cell_complement (character : Char) (x y : Nat) :
    (cell .normal character x y = 0 ∨ cell .normal character x y = 255) ∧
      cell .inverse character x y = 255 - cell .normal character x y := by
  rw [cell, cell]
  cases fontBit character x y with
  | true => exact ⟨.inr rfl, rfl⟩
  | false => exact ⟨.inl rfl, rfl⟩

end Cover

namespace Stroke

/-! ### Strokes on the same places -/

theorem lastAt_eq_none_iff (index : Nat) (strokes : List Stroke) :
    lastAt index strokes = none ↔ index ∉ strokes.map Stroke.index := by
  induction strokes with
  | nil => exact iff_of_true rfl List.not_mem_nil
  | cons stroke rest inductionHypothesis =>
    have first : (if stroke.index = index then some stroke.value else none) = none ↔
        index ≠ stroke.index := by
      rw [ite_eq_right_iff, ne_comm]
      exact forall_congr' fun same => iff_of_false nofun not_false
    rw [lastAt, Option.or_eq_none_iff, inductionHypothesis, first, List.map_cons, List.mem_cons,
      not_or, and_comm]

/-- Strokes on the same places cover all that was drawn before them. -/
theorem paint_paint {front back : List Stroke}
    (same : front.map Stroke.index = back.map Stroke.index) (pixels : Array UInt8) :
    paint (paint pixels front) back = paint pixels back := by
  refine Array.ext_getElem? fun index => ?_
  rw [getElem?_paint, getElem?_paint, getElem?_paint, Option.map_map]
  refine congrArg (Option.map · pixels[index]?) (funext fun old => ?_)
  cases drawn : lastAt index back with
  | some value => rfl
  | none =>
    have bare : lastAt index front = none := by
      rwa [lastAt_eq_none_iff, same, ← lastAt_eq_none_iff]
    rw [Function.comp_apply, bare]
    rfl

theorem map_index_at? (geometry : Geometry) (x y : Nat) (lit : Bool) :
    (at? geometry x y lit).map Stroke.index = geometry.index? x y := by
  rw [at?, Option.map_map]
  exact Option.map_id'

/-- The places of the strokes of a text do not depend on the mode. -/
theorem map_index_ofText (geometry : Geometry) (mode other : TextMode) (row column : UInt16)
    (text : List Char) :
    (ofText geometry mode row column text).map Stroke.index =
      (ofText geometry other row column text).map Stroke.index := by
  induction text generalizing column with
  | nil => rfl
  | cons character rest inductionHypothesis =>
    rw [ofText, ofText, List.map_append, List.map_append, inductionHypothesis]
    simp only [ofCell, List.map_flatMap, List.map_filterMap, map_index_at?]

end Stroke

namespace Panel

/-! ### Panels -/

/-- What a text leaves of the pixels of a panel. -/
theorem pixel?_writeAt (panel : Panel) (text : List Char) (row column : UInt16) {x y : Nat}
    {old : UInt8} (there : panel.snapshot.pixel? x y = some old) (mode : TextMode) :
    (panel.changed (.writeAt text row column mode)).snapshot.pixel? x y =
      some ((Cover.text? mode text row.toNat column.toNat x y).getD old) := by
  rw [pixel?_changed, there]
  rfl

/-- Whatever was done with a panel before: in the cells of a text the normal and the inverse mode
leave complementary pixels, and all other pixels stay. The cursor, the count of orders and the
dirty flag are the same after both. If the text is written in any mode, and again at the same cell
in any mode, the picture is the one that the second mode leaves alone. -/
theorem drawn_complement (geometry : Geometry) (actions : List Action) (text : List Char)
    (row column : UInt16) :
    let panel := ((blank geometry).actAll actions).1
    let drawn := fun mode => (panel.perform (.writeAt text row column mode)).1
    (∀ x y, x < geometry.width → y < geometry.height →
      (Cover.InCells text row.toNat column.toNat x y →
        ∃ value : UInt8, (value = 0 ∨ value = 255) ∧
          (drawn .normal).snapshot.pixel? x y = some value ∧
          (drawn .inverse).snapshot.pixel? x y = some (255 - value)) ∧
      (¬ Cover.InCells text row.toNat column.toNat x y → ∀ mode,
        (drawn mode).snapshot.pixel? x y = panel.snapshot.pixel? x y)) ∧
    ((drawn .inverse).cursor = (drawn .normal).cursor ∧
      (drawn .inverse).received = (drawn .normal).received ∧
      (drawn .inverse).dirty = (drawn .normal).dirty) ∧
    ∀ first second,
      ((drawn first).perform (.writeAt text row column second)).1.pixels =
        (drawn second).pixels := by
  intro panel drawn
  refine ⟨fun x y inside above => ?_, ⟨rfl, rfl, rfl⟩, fun first second => ?_⟩
  · obtain ⟨old, there⟩ : ∃ old, panel.snapshot.pixel? x y = some old := by
      rw [pixel?_actAll, pixel?_blank, if_pos ⟨inside, above⟩]
      exact ⟨_, rfl⟩
    have left := pixel?_writeAt panel text row column there
    refine ⟨fun within => ?_, fun without mode => ?_⟩
    · obtain ⟨character, covers⟩ := Cover.text?_of_inCells within
      obtain ⟨shade, complement⟩ :=
        Cover.cell_complement character (x % cellWidth) (y % cellHeight)
      refine ⟨_, shade, ?_, ?_⟩
      · have normal := left .normal
        rwa [covers .normal] at normal
      · have inverse := left .inverse
        rwa [covers .inverse, Option.getD_some, complement] at inverse
    · have kept := left mode
      rwa [Cover.text?_of_not_inCells without, Option.getD_none, ← there] at kept
  · exact Stroke.paint_paint (Stroke.map_index_ofText panel.geometry first second row column text)
      panel.pixels

end Panel

end PanelLink
