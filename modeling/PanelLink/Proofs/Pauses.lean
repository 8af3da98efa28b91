/-
This file proves how long the pauses are that a limited rate leaves between updates. Every
limit but zero has a pause, and a higher limit never has a longer one. The pause is a whole
number of nanoseconds, so it comes down to nothing in the end: limits up to two billion times
a second leave at least a nanosecond, and higher limits leave none, although a viewer's
throttle is made with that pause as its period.
-/

import PanelLink.Proofs.Rounding
import PanelLink.Session.Basic

namespace PanelLink

open Timing

namespace Timing.Rate

theorem pause?_limited {hertz : UInt32} (limits : hertz ≠ 0) :
    (limited hertz).pause? = some ((Rounding.reciprocal hertz.toNat).times second) := by
  rw [pause?, normalized, if_neg limits]

/-- Limits up to two billion leave a nanosecond at least, and no other limits do. -/
theorem second_reciprocal_pos_iff {hertz : Nat} (positive : 0 < hertz) :
    1 ≤ (Rounding.reciprocal hertz).times second ↔ hertz ≤ 2000000000 := by
  have last : (Rounding.reciprocal 2000000000).times second = 1 := by decide
  have next : (Rounding.reciprocal 2000000001).times second = 0 := by decide
  constructor
  · intro some
    by_contra above
    have least := Rounding.times_reciprocal_antitone (by decide) (Nat.not_le.mp above) second
    rw [Nat.succ_eq_add_one, next] at least
    omega
  · intro below
    rw [← last]
    exact Rounding.times_reciprocal_antitone positive below second

end Timing.Rate

namespace Session

/-- The period of the throttle that holds a viewer back, if there is one. -/
def periodOf? (viewer : Viewer Snapshot) : Option Nat :=
  viewer.throttle?.map fun throttle => throttle.ticker.period

theorem periodOf?_view (rate : Rate) (now : Nat) : periodOf? (view rate now).1 = rate.pause? := by
  rw [periodOf?, view, Viewer.start]
  cases rate.pause? <;> rfl

/-- A viewer who wants to see the panel at most so many times a second gets a throttle, whose
period is not longer for a higher limit, and is not zero exactly for limits up to two billion. -/
theorem period_of_limited (hertz : UInt32) (limits : hertz ≠ 0) (now : Nat) :
    ∃ period, (Rate.limited hertz).pause? = some period ∧
      periodOf? (view (.limited hertz) now).1 = some period ∧
      (1 ≤ period ↔ hertz.toNat ≤ 2000000000) ∧
      ∀ faster, hertz ≤ faster →
        ∃ shorter, (Rate.limited faster).pause? = some shorter ∧ shorter ≤ period := by
  have positive : 0 < hertz.toNat := UInt32.pos_iff_ne_zero.mpr limits
  have known := Rate.pause?_limited limits
  refine ⟨_, known, (periodOf?_view _ now).trans known, Rate.second_reciprocal_pos_iff positive, ?_⟩
  intro faster higher
  have also : faster ≠ 0 := by
    rintro rfl
    exact limits (UInt32.le_zero_iff.mp higher)
  exact ⟨_, Rate.pause?_limited also,
    Rounding.times_reciprocal_antitone positive (UInt32.le_iff_toNat_le.mp higher) second⟩

/-- The highest limit that leaves a pause. -/
theorem period_of_limited_two_billion :
    (2000000000 : UInt32) ≠ 0 ∧
      ∃ period, (Rate.limited 2000000000).pause? = some period ∧
        periodOf? (view (.limited 2000000000) 0).1 = some period ∧
        (1 ≤ period ↔ (2000000000 : UInt32).toNat ≤ 2000000000) ∧
        ∀ faster, 2000000000 ≤ faster →
          ∃ shorter, (Rate.limited faster).pause? = some shorter ∧ shorter ≤ period :=
  ⟨by decide, period_of_limited 2000000000 (by decide) 0⟩

/-- The highest limit of all is not zero and leaves no pause, and its viewer gets a throttle whose
period is zero. -/
theorem period_zero_of_highest :
    (4294967295 : UInt32) ≠ 0 ∧ (Rate.limited 4294967295).pause? = some 0 ∧
      ∀ now, periodOf? (view (.limited 4294967295) now).1 = some 0 := by
  have none : (Rate.limited 4294967295).pause? = some 0 := by decide
  exact ⟨by decide, none, fun now => (periodOf?_view _ now).trans none⟩

end Session

end PanelLink
