/-
This file reads numerals back. The digits of a number in a base stand for the number again,
zeros in front of them change nothing, and only zero starts with a zero by itself. Numbers
that a device sends are cut to a width and shown with a fixed number of digits, or in decimal;
what is shown tells the number that was cut, and nothing more.
-/

import Mathlib.Algebra.Group.Nat.Defs
import Mathlib.Data.List.Basic
import PanelLink.Command.NumberFormat

namespace PanelLink

/-! ### Digits -/

namespace Radix

variable {base : Nat}

theorem extend?_append (base start : Nat) (front back : List Char) :
    extend? base start (front ++ back) =
      (extend? base start front).bind fun value => extend? base value back := by
  induction front generalizing start with
  | nil => rfl
  | cons character rest inductionHypothesis =>
    rw [List.cons_append, extend?, extend?]
    cases digitValue? base character with
    | none => rfl
    | some digit => exact inductionHypothesis _

/-- Every digit stands for its own value. -/
theorem digitValue?_digitChar (small : base ≤ 16) {digit : Nat} (inside : digit < base) :
    digitValue? base (Nat.digitChar digit) = some digit := by
  have table : ∀ digit < 16, digitValue? 16 (Nat.digitChar digit) = some digit := by decide
  have known := table digit (Nat.lt_of_lt_of_le inside small)
  rw [digitValue?, Option.filter_eq_some_iff] at known ⊢
  exact ⟨known.1, decide_eq_true inside⟩

/-- The digits of a number stand for the number. -/
theorem extend?_digits (positional : 1 < base) (small : base ≤ 16) (number : Nat) :
    extend? base 0 (digits base number) = some number := by
  have single (start : Nat) {digit : Nat} (inside : digit < base) :
      extend? base start (digits base digit) = some (start * base + digit) := by
    rw [digits, Nat.toDigits_of_lt_base inside, extend?, digitValue?_digitChar small inside]
    rfl
  induction number using Nat.base_induction base positional with
  | single digit inside => rw [single 0 inside, Nat.zero_mul, Nat.zero_add]
  | digit front digit inside positive inductionHypothesis =>
    rw [digits, ← Nat.toDigits_append_toDigits positional positive inside]
    show extend? base 0 (digits base front ++ digits base digit) = _
    rw [extend?_append, inductionHypothesis, Option.bind_some, single front inside, Nat.mul_comm]

/-- A letter that is no digit is not in a numeral. -/
theorem notMem_digits (positional : 1 < base) (small : base ≤ 16) {mark : Char}
    (other : digitValue? base mark = none) (number : Nat) : mark ∉ digits base number := by
  intro member
  obtain ⟨front, back, split⟩ := List.append_of_mem member
  have known := extend?_digits positional small number
  rw [split, extend?_append, Option.bind_eq_some_iff] at known
  obtain ⟨value, -, stuck⟩ := known
  rw [extend?, other] at stuck
  cases stuck

/-- The digits of a number are the digits of no other number. -/
theorem digits_injective (positional : 1 < base) (small : base ≤ 16) :
    Function.Injective (digits base) := by
  intro number other same
  rw [← Option.some_inj, ← extend?_digits positional small, ← extend?_digits positional small, same]

theorem extend?_zeros (positive : 0 < base) (count : Nat) (rest : List Char) :
    extend? base 0 (List.replicate count '0' ++ rest) = extend? base 0 rest := by
  have zero : digitValue? base '0' = some 0 := by
    rw [digitValue?, Option.filter_eq_some_iff]
    exact ⟨rfl, decide_eq_true positive⟩
  induction count with
  | zero => rfl
  | succ count inductionHypothesis =>
    rw [List.replicate_succ, List.cons_append, extend?, zero]
    simp only [Nat.zero_mul]
    exact inductionHypothesis

theorem padded_ne_nil (width base number : Nat) : padded width base number ≠ [] :=
  List.append_ne_nil_of_right_ne_nil _ Nat.toDigits_ne_nil

/-- A numeral that is filled up with zeros stands for its number all the same. -/
theorem value?_padded (positional : 1 < base) (small : base ≤ 16) (width number : Nat) :
    value? base (padded width base number) = some number := by
  have extended : extend? base 0 (padded width base number) = some number := by
    rw [padded, List.leftpad, extend?_zeros (Nat.zero_lt_of_lt positional),
      extend?_digits positional small]
  rw [← extended]
  have nonempty := padded_ne_nil width base number
  cases numeral : padded width base number with
  | nil => exact absurd numeral nonempty
  | cons character rest => rfl

/-- A number that fits into a width fills exactly that width. -/
theorem length_padded (positional : 1 < base) {width number : Nat} (positive : 0 < width)
    (fits : number < base ^ width) : (padded width base number).length = width := by
  rw [padded, List.length_leftpad]
  exact Nat.max_eq_left ((Nat.length_toDigits_le_iff positional positive).mpr fits)

/-- Only zero starts with a zero. -/
theorem eq_zero_of_head?_digits (positional : 1 < base) {number : Nat}
    (leading : (digits base number).head? = some '0') : number = 0 := by
  induction number using Nat.base_induction base positional with
  | single digit inside =>
    rw [digits, Nat.toDigits_of_lt_base inside] at leading
    exact Nat.digitChar_eq_zero.mp (Option.some_inj.mp leading)
  | digit front digit inside positive inductionHypothesis =>
    rw [digits, ← Nat.toDigits_append_toDigits positional positive inside,
      List.head?_append_of_ne_nil _ Nat.toDigits_ne_nil] at leading
    exact absurd (inductionHypothesis leading) (Nat.ne_of_gt positive)

end Radix

/-! ### Formats -/

namespace NumberFormat

/-- The low bits of a number as a mask takes them out. At the full width there is no mask, since the
shift that makes it would be out of range. -/
def masked (format : NumberFormat) (number : UInt32) : UInt32 :=
  if format.bits = 32 then number
  else number &&& ((1 <<< UInt32.ofNat format.bits) - 1)

theorem toNat_masked (format : NumberFormat) (number : UInt32) :
    (format.masked number).toNat = format.truncate number := by
  have mask : format.bits ≠ 32 →
      ((1 <<< UInt32.ofNat format.bits) - 1 : UInt32).toNat = 2 ^ format.bits - 1 := by
    cases format <;> decide
  rw [masked, truncate]
  split
  · rename_i full
    rw [full]
    exact (Nat.mod_eq_of_lt number.toNat_lt).symm
  · rename_i narrow
    rw [UInt32.toNat_and, mask narrow, Nat.and_two_pow_sub_one_eq_mod]
    rfl

theorem truncate_lt (format : NumberFormat) (number : UInt32) :
    format.truncate number < 2 ^ format.bits :=
  Nat.mod_lt _ (Nat.two_pow_pos _)

theorem value?_numeral (format : NumberFormat) (number : UInt32) :
    Radix.value? format.style.base (format.numeral number) = some (format.truncate number) := by
  have bases : 1 < format.style.base ∧ format.style.base ≤ 16 := by cases format <;> decide
  exact Radix.value?_padded bases.1 bases.2 _ _

/-- Where digits are filled up, the width in bits is just the width in digits. -/
theorem length_numeral (format : NumberFormat) (filled : format.style ≠ .decimal)
    (number : UInt32) :
    (format.numeral number).length = format.style.leastDigits format.bits := by
  have bases : 1 < format.style.base ∧ 0 < format.style.leastDigits format.bits := by
    cases format <;> decide
  have width : 2 ^ format.bits = format.style.base ^ format.style.leastDigits format.bits := by
    cases format <;> first | rfl | exact absurd rfl filled
  exact Radix.length_padded bases.1 bases.2 (width ▸ format.truncate_lt number)

/-- Decimal digits are not filled up. -/
theorem numeral_of_decimal (format : NumberFormat) (decimal : format.style = .decimal)
    (number : UInt32) : format.numeral number = Radix.digits 10 (format.truncate number) := by
  rw [numeral, decimal, Radix.padded, List.leftpad]
  have enough : 1 ≤ (Radix.digits 10 (format.truncate number)).length := Nat.length_toDigits_pos
  show List.replicate (1 - (Radix.digits 10 (format.truncate number)).length) '0' ++ _ = _
  rw [Nat.sub_eq_zero_of_le enough]
  rfl

theorem shown_eq_iff (format : NumberFormat) (number other : UInt32) :
    format.shown number = format.shown other ↔ format.truncate number = format.truncate other := by
  constructor
  · intro same
    have numerals : format.numeral number = format.numeral other :=
      List.append_cancel_left (String.ofList_injective same)
    rw [← Option.some_inj, ← value?_numeral, ← value?_numeral, numerals]
  · intro same
    rw [shown, shown, shownChars, shownChars, numeral, numeral, same]

/-- Every number can be read back from what is shown of it, up to the width of the format. Behind
the base mark there are digits of that base, which stand for the low bits of the number. Hexadecimal
and binary digits fill the width; decimal digits begin with a zero only where zero is shown. So two
numbers look alike if and only if they have the same low bits, and these are what a mask takes out
of a word. -/
theorem shown_reads_back (format : NumberFormat) (number : UInt32) :
    let low := number.toNat % 2 ^ format.bits
    let letters := (format.shown number).toList
    (match format.style with
      | .hexadecimal => ∃ digits, letters = '0' :: 'x' :: digits ∧
          Radix.value? 16 digits = some low ∧ digits.length = format.bits / 4
      | .binary => ∃ digits, letters = '0' :: 'b' :: digits ∧
          Radix.value? 2 digits = some low ∧ digits.length = format.bits
      | .decimal => Radix.value? 10 letters = some low ∧
          (letters.head? = some '0' → letters = ['0'] ∧ low = 0)) ∧
      (∀ other : UInt32, format.shown number = format.shown other ↔
        low = other.toNat % 2 ^ format.bits) ∧
      (format.masked number).toNat = low := by
  intro low letters
  have spelled : letters = format.style.mark ++ format.numeral number := String.toList_ofList
  have reads := format.value?_numeral number
  have filled := format.length_numeral
  refine ⟨?_, shown_eq_iff format number, toNat_masked format number⟩
  rw [spelled]
  cases style : format.style with
  | hexadecimal =>
    rw [style] at reads filled
    exact ⟨_, rfl, reads, filled nofun number⟩
  | binary =>
    rw [style] at reads filled
    exact ⟨_, rfl, reads, filled nofun number⟩
  | decimal =>
    rw [style] at reads
    refine ⟨reads, fun leading => ?_⟩
    rw [format.numeral_of_decimal style] at leading ⊢
    have zero : low = 0 := Radix.eq_zero_of_head?_digits (by decide) leading
    have shownZero : format.truncate number = 0 := zero
    rw [shownZero]
    exact ⟨rfl, zero⟩

end NumberFormat

end PanelLink
