/-
This file reads summaries back. Each part of a summary shows where it ends: a quoted text at the
first mark that stands for itself, a number at the first letter that is no digit, and a byte list
at the end of the line. Whatever a text holds, even what looks like the rest of a summary, stays
between its marks. The first letters tell what kind of order it is, except that the two ways to
write a text begin alike and part only behind the text. So no two orders share a summary, graphic
lines apart, of which a summary only gives the counts.
-/

import PanelLink.Command.Summary
import PanelLink.Proofs.Numerals

namespace PanelLink

/-! ### Parts that show their end -/

/-- A way to write values that shows where a value ends: the letters of one value do not begin a
line that begins with the letters of another. -/
def SelfDelimiting {Value : Type} (write : Value → List Char) : Prop :=
  ∀ (value other : Value) (rest tail : List Char),
    write value ++ rest = write other ++ tail → value = other ∧ rest = tail

namespace SelfDelimiting

variable {Value : Type} {write : Value → List Char}

/-- It is enough that a reader gives the value and what is left of the line. -/
theorem of_reader (read? : List Char → Option (Value × List Char))
    (reads : ∀ value rest, read? (write value ++ rest) = some (value, rest)) :
    SelfDelimiting write := by
  intro value other rest tail same
  rw [← Prod.mk.injEq, ← Option.some_inj, ← reads, ← reads, same]

/-- Values that are written in one width show where they end. -/
theorem of_width (width : Nat) (filled : ∀ value, (write value).length = width)
    (injective : Function.Injective write) : SelfDelimiting write := by
  intro value other rest tail same
  have parts := List.append_inj same ((filled value).trans (filled other).symm)
  exact parts.imp_left fun letters => injective letters

/-- Of values in a row the last one is known by a mark that begins no value. -/
theorem row (whole : SelfDelimiting write) (mark : Char)
    (apart : ∀ value rest tail, write value ++ rest ≠ mark :: tail) :
    SelfDelimiting fun values : List Value => values.flatMap write ++ [mark] := by
  intro values others rest tail same
  simp only [List.append_assoc, List.singleton_append] at same
  induction values generalizing others with
  | nil =>
    cases others with
    | nil => exact ⟨rfl, (List.cons.inj same).2⟩
    | cons other others =>
      rw [List.flatMap_cons, List.append_assoc] at same
      exact absurd same.symm (apart _ _ _)
  | cons value values inductionHypothesis =>
    rw [List.flatMap_cons, List.append_assoc] at same
    cases others with
    | nil => exact absurd same (apart _ _ _)
    | cons other others =>
      rw [List.flatMap_cons, List.append_assoc] at same
      obtain ⟨rfl, behind⟩ := whole _ _ _ _ same
      exact (inductionHypothesis others behind).imp_left (congrArg (value :: ·))

end SelfDelimiting

theorem cut_at_mark {mark : Char} {letters : List Char} (apart : mark ∉ letters)
    (rest : List Char) :
    (letters ++ mark :: rest).takeWhile (· != mark) = letters ∧
      (letters ++ mark :: rest).dropWhile (· != mark) = mark :: rest := by
  have others : ∀ letter ∈ letters, (letter != mark) = true := by
    intro letter member
    exact bne_iff_ne.mpr fun marked => apart (marked ▸ member)
  rw [List.takeWhile_append_of_pos others, List.dropWhile_append_of_pos others,
    List.takeWhile_cons_of_neg (by simp), List.dropWhile_cons_of_neg (by simp)]
  exact ⟨List.append_nil _, rfl⟩

/-- A line parts in one way only at the first mark in it. -/
theorem parted_at_mark {mark : Char} {front other rest tail : List Char} (apart : mark ∉ front)
    (otherApart : mark ∉ other) (same : front ++ mark :: rest = other ++ mark :: tail) :
    front = other ∧ rest = tail := by
  obtain ⟨fronts, behind⟩ := cut_at_mark apart rest
  obtain ⟨otherFronts, otherBehind⟩ := cut_at_mark otherApart tail
  rw [same] at fronts behind
  exact ⟨fronts.symm.trans otherFronts, (List.cons.inj (behind.symm.trans otherBehind)).2⟩

/-! ### Quotes -/

namespace Quoted

/-- Reads one letter between quotes, and gives what is left of the line. -/
def letter? : List Char → Option (Char × List Char)
  | [] => none
  | '\\' :: 'u' :: '\x7b' :: rest =>
    (Radix.extend? 16 0 (rest.takeWhile (· != '\x7d'))).map fun code =>
      (Char.ofNat code, (rest.dropWhile (· != '\x7d')).drop 1)
  | '\\' :: 't' :: rest => some ('\t', rest)
  | '\\' :: 'r' :: rest => some ('\r', rest)
  | '\\' :: 'n' :: rest => some ('\n', rest)
  | '\\' :: '0' :: rest => some ('\x00', rest)
  | '\\' :: letter :: rest => some (letter, rest)
  | letter :: rest => some (letter, rest)

theorem letter?_codePoint (letter : Char) (rest : List Char) :
    letter? (codePoint letter ++ rest) = some (letter, rest) := by
  have inside : '\x7d' ∉ Radix.digits 16 letter.toNat :=
    Radix.notMem_digits (by decide) (by decide) rfl _
  obtain ⟨code, behind⟩ := cut_at_mark inside rest
  have written : codePoint letter ++ rest =
      '\\' :: 'u' :: '\x7b' :: (Radix.digits 16 letter.toNat ++ '\x7d' :: rest) := by
    simp only [codePoint, List.append_assoc, List.cons_append, List.nil_append]
  rw [written, letter?, code, behind, Radix.extend?_digits (by decide) (by decide),
    Option.map_some, Char.ofNat_toNat]
  rfl

/-- Every letter is read back from what is written for it between quotes. -/
theorem letter?_escape (letter : Char) (rest : List Char) :
    letter? (escape textMark letter ++ rest) = some (letter, rest) := by
  unfold escape
  split_ifs with marked tab back feed null hidden
  · rcases marked with rfl | rfl <;> rfl
  · rw [tab]; rfl
  · rw [back]; rfl
  · rw [feed]; rfl
  · rw [null]; rfl
  · exact letter?_codePoint letter rest
  · have plain : letter ≠ '\\' := fun slash => marked (.inr slash)
    show letter? (letter :: rest) = _
    rw [letter?] <;> intros <;> contradiction

theorem selfDelimiting_escape : SelfDelimiting (escape textMark) :=
  .of_reader letter? letter?_escape

/-- What is written for a letter does not begin with the mark, which ends the text. -/
theorem escape_append_ne (letter : Char) (rest tail : List Char) :
    escape textMark letter ++ rest ≠ textMark :: tail := by
  unfold escape
  split_ifs with marked tab back feed null hidden
  -- All that is written in more than one letter begins with a backslash.
  iterate 6 exact fun same => absurd (List.cons.inj same).1 (by decide)
  exact fun same => marked (.inl (List.cons.inj same).1)

theorem selfDelimiting_text : SelfDelimiting fun content => (text content).toList := by
  intro content other rest tail same
  simp only [text, textChars, String.toList_ofList, List.cons_append] at same
  have parts := selfDelimiting_escape.row textMark escape_append_ne _ _ _ _ (List.cons.inj same).2
  exact parts.imp_left fun letters => String.toList_injective letters

end Quoted

/-! ### Byte lists -/

namespace ByteList

theorem selfDelimiting_hexPair : SelfDelimiting hexPair := by
  refine .of_width 2 (fun byte => ?_) fun byte other same => ?_
  · exact Radix.length_padded (by decide) (by decide) byte.toNat_lt
  · have values := congrArg (Radix.value? 16) same
    rw [hexPair, hexPair, Radix.value?_padded (by decide) (by decide),
      Radix.value?_padded (by decide) (by decide)] at values
    exact UInt8.toNat_inj.mp (Option.some_inj.mp values)

theorem pairs_cons (byte : UInt8) (rest : List UInt8) :
    pairs (byte :: rest) = hexPair byte ++ rest.flatMap fun next => [',', ' '] ++ hexPair next := by
  induction rest generalizing byte with
  | nil => exact (List.append_nil _).symm
  | cons next rest inductionHypothesis =>
    rw [pairs, inductionHypothesis, List.flatMap_cons, List.append_assoc, List.append_assoc]
    exact List.cons_ne_nil _ _

theorem pairs_cons_ne_nil (byte : UInt8) (rest : List UInt8) : pairs (byte :: rest) ≠ [] := by
  rw [pairs_cons]
  exact List.append_ne_nil_of_left_ne_nil (Radix.padded_ne_nil 2 16 byte.toNat) _

theorem pairs_injective : Function.Injective pairs := by
  have separated : SelfDelimiting fun next => ',' :: ' ' :: hexPair next := by
    intro byte other rest tail same
    exact selfDelimiting_hexPair _ _ _ _ (List.cons.inj (List.cons.inj same).2).2
  have bracket := separated.row ']' nofun
  intro bytes others same
  cases bytes with
  | nil =>
    cases others with
    | nil => rfl
    | cons other others => exact absurd same.symm (pairs_cons_ne_nil other others)
  | cons byte bytes =>
    cases others with
    | nil => exact absurd same (pairs_cons_ne_nil byte bytes)
    | cons other others =>
      rw [pairs_cons, pairs_cons] at same
      obtain ⟨rfl, behind⟩ := selfDelimiting_hexPair _ _ _ _ same
      rw [(bracket bytes others [] [] (congrArg (· ++ [']'] ++ []) behind)).1]

theorem bracketed_injective : Function.Injective bracketed := by
  intro bytes others same
  exact pairs_injective (List.append_cancel_right (List.cons.inj (String.ofList_injective same)).2)

end ByteList

/-! ### Numbers -/

theorem decimal_injective : Function.Injective fun place : UInt8 => Radix.decimal place.toNat := by
  intro place other same
  have places := Radix.digits_injective (by decide) (by decide) (String.ofList_injective same)
  exact UInt8.toNat_inj.mp places

theorem notMem_decimal {mark : Char} (other : Radix.digitValue? 10 mark = none) (number : Nat) :
    mark ∉ (Radix.decimal number).toList := by
  rw [Radix.decimal, String.toList_ofList]
  exact Radix.notMem_digits (by decide) (by decide) other number

theorem axisText_injective : Function.Injective axisText := by
  have dash (place : UInt8) : axisText none ≠ axisText (some place) := by
    intro same
    have absent : '-' ∉ (axisText (some place)).toList := notMem_decimal rfl _
    exact absent (same ▸ by decide)
  intro place other same
  cases place with
  | none =>
    cases other with
    | none => rfl
    | some other => exact absurd same (dash other)
  | some place =>
    cases other with
    | none => exact absurd same.symm (dash place)
    | some other => exact congrArg some (decimal_injective same)

theorem comma_notMem_axisText (place : Option UInt8) : ',' ∉ (axisText place).toList := by
  cases place with
  | none => decide
  | some place => exact notMem_decimal rfl _

theorem cellText_parted {row column otherRow otherColumn : UInt8} {rest tail : List Char}
    (same : (cellText row column).toList ++ ' ' :: rest =
      (cellText otherRow otherColumn).toList ++ ' ' :: tail) :
    row = otherRow ∧ column = otherColumn ∧ rest = tail := by
  simp only [cellText, String.toList_append, List.append_assoc] at same
  obtain ⟨rows, behind⟩ := parted_at_mark (notMem_decimal rfl _) (notMem_decimal rfl _) same
  obtain ⟨columns, behind⟩ := parted_at_mark (notMem_decimal rfl _) (notMem_decimal rfl _) behind
  exact ⟨decimal_injective (String.toList_injective rows),
    decimal_injective (String.toList_injective columns), behind⟩

theorem modeText_injective : Function.Injective modeText := by
  intro mode other same
  cases mode <;> cases other <;> first | rfl | exact absurd same (by decide)

/-! ### Orders -/

namespace Order

/-- The kind of order that the first letters of a summary announce. -/
def announced? : List Char → Option Kind
  | 'w' :: _ => some .write
  | 'c' :: 'o' :: _ => some .columns
  | 'c' :: 'u' :: _ => some .moveCursor
  | 'c' :: 'l' :: 'e' :: 'a' :: 'r' :: ' ' :: 'd' :: _ => some .clearAll
  | 'c' :: 'l' :: 'e' :: 'a' :: 'r' :: ' ' :: 'r' :: _ => some .clearRow
  | 'm' :: _ => some .columnsAt
  | 'g' :: _ => some .graphicLine
  | _ => none

/-- The kind of an order as it is announced, before it is known whether a text has a cell. -/
def announcement : Order → Kind
  | .writeAt .. => .write
  | order => order.kind

theorem announced?_summary (order : Order) :
    announced? order.summary.toList = some order.announcement := by
  cases order <;> unfold summary <;> simp only [String.toList_append] <;> rfl

/-- Behind the text there is either the mode or the cell. -/
theorem summary_write_ne (content other : String) (mode otherMode : TextMode)
    (row column : UInt8) :
    (write content mode).summary ≠ (writeAt other row column otherMode).summary := by
  intro same
  replace same := congrArg String.toList same
  unfold summary modeText at same
  simp only [String.toList_append, List.append_assoc] at same
  obtain ⟨-, behind⟩ := Quoted.selfDelimiting_text _ _ _ _ (List.append_cancel_left same)
  exact absurd (List.cons.inj (List.cons.inj behind).2).1 (by decide)

/-- No two orders have one summary, unless both are graphic lines. -/
theorem eq_of_summary_eq {first second : Order} (told : first.kind ≠ .graphicLine)
    (same : first.summary = second.summary) : first = second := by
  have announced : some first.announcement = some second.announcement := by
    rw [← announced?_summary, ← announced?_summary, same]
  have letters := congrArg String.toList same
  cases first with
  | write content mode =>
    cases second with
    | write other otherMode =>
      unfold summary at letters
      simp only [String.toList_append, List.append_assoc] at letters
      obtain ⟨rfl, behind⟩ := Quoted.selfDelimiting_text _ _ _ _ (List.append_cancel_left letters)
      rw [modeText_injective (String.toList_injective (List.append_cancel_left behind))]
    | writeAt => exact absurd same (summary_write_ne _ _ _ _ _ _)
    | _ => nomatch announced
  | writeAt content row column mode =>
    cases second with
    | write => exact absurd same.symm (summary_write_ne _ _ _ _ _ _)
    | writeAt other otherRow otherColumn otherMode =>
      unfold summary at letters
      simp only [String.toList_append, List.append_assoc] at letters
      obtain ⟨rfl, behind⟩ := Quoted.selfDelimiting_text _ _ _ _ (List.append_cancel_left letters)
      obtain ⟨rfl, rfl, modes⟩ := cellText_parted (List.append_cancel_left behind)
      rw [modeText_injective (String.toList_injective modes)]
    | _ => nomatch announced
  | columns bytes =>
    cases second with
    | columns others =>
      unfold summary at letters
      simp only [String.toList_append] at letters
      rw [ByteList.bracketed_injective (String.toList_injective (List.append_cancel_left letters))]
    | _ => nomatch announced
  | moveCursor row column =>
    cases second with
    | moveCursor otherRow otherColumn =>
      unfold summary at letters
      simp only [String.toList_append, List.append_assoc] at letters
      obtain ⟨rows, columns⟩ := parted_at_mark (comma_notMem_axisText row)
        (comma_notMem_axisText otherRow) (List.append_cancel_left letters)
      rw [axisText_injective (String.toList_injective rows),
        axisText_injective (String.toList_injective columns)]
    | _ => nomatch announced
  | clearAll =>
    cases second with
    | clearAll => rfl
    | _ => nomatch announced
  | clearRow row =>
    cases second with
    | clearRow other =>
      unfold summary at letters
      simp only [String.toList_append] at letters
      rw [decimal_injective (String.toList_injective (List.append_cancel_left letters))]
    | _ => nomatch announced
  | columnsAt row column bytes =>
    cases second with
    | columnsAt otherRow otherColumn others =>
      unfold summary at letters
      simp only [String.toList_append, List.append_assoc] at letters
      obtain ⟨rfl, rfl, listed⟩ := cellText_parted (List.append_cancel_left letters)
      rw [ByteList.bracketed_injective (String.toList_injective listed)]
    | _ => nomatch announced
  | graphicLine columnCount bytes => exact absurd rfl told

/-- A graphic line is summed up by its counts, and so its bytes cannot be told. -/
example : (graphicLine 2 [0, 1]).summary = (graphicLine 2 [2, 3]).summary := by
  decide

end Order

/-! ### Commands -/

/-- Two commands for the panel have one summary if and only if they carry the same order, whatever
the texts in them look like and whatever their frames are. The summary of a graphic line only gives
counts, and so the first order must not be one; that of no other order looks like it. -/
theorem Command.summary_eq_iff (first second : Command) (drawn : first.payload.isOrder = true)
    (otherDrawn : second.payload.isOrder = true) (told : first.kind ≠ .graphicLine) :
    first.summary = second.summary ↔ first.payload = second.payload := by
  obtain ⟨firstId, payload⟩ := first
  obtain ⟨secondId, other⟩ := second
  refine ⟨fun same => ?_, congrArg Payload.summary⟩
  cases payload with
  | message => cases drawn
  | order order =>
    cases other with
    | message => cases otherDrawn
    | order otherOrder => exact congrArg Payload.order (Order.eq_of_summary_eq told same)

/-- A text that ends in a mark and looks like a cell from there on is not taken for one. -/
theorem Command.summary_ne_lookalike :
    let first : Command := ⟨1, .order (.write "7\x22 at 1,2 (Normal)" .normal)⟩
    let second : Command := ⟨2, .order (.writeAt "7" 1 2 .normal)⟩
    first.payload.isOrder = true ∧ second.payload.isOrder = true ∧ first.kind ≠ .graphicLine ∧
      first.summary ≠ second.summary := by
  intro first second
  have told : first.kind ≠ .graphicLine := nofun
  exact ⟨rfl, rfl, told, (Command.summary_eq_iff first second rfl rfl told).not.mpr nofun⟩

end PanelLink
