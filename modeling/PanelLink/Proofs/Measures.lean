/-
This file proves what the check of settings is worth for the measures of a panel. It makes
sure that there is a pixel, and nothing bounds the measures from above but the size of a
machine word. As long as the number of pixels fits into a word as well, words count it
exactly, and every pixel has a place among so many. Otherwise the product of the words is
too small, and the last pixel has no place.

A panel is built with guards: the number of its pixels has to be a word, and no buffer is as
long as half of the words. So it can be built exactly if its buffer is shorter than that. It
then has one place for each pixel.
-/

import PanelLink.Link.Script
import PanelLink.Proofs.Guarding
import PanelLink.Session.Basic
import PanelLink.Settings.File

namespace PanelLink

/-! ### Counting in words -/

namespace Geometry

/-- The number of pixels as words of 64 bits count it: what is beyond their last bit is lost. -/
def wordCount (geometry : Geometry) : Nat :=
  (UInt64.ofNat geometry.width * UInt64.ofNat geometry.height).toNat

variable (geometry : Geometry)

theorem wordCount_eq : geometry.wordCount = geometry.pixelCount % UInt64.size := by
  rw [wordCount, UInt64.toNat_mul, UInt64.toNat_ofNat', UInt64.toNat_ofNat', ← Nat.mul_mod]
  rfl

theorem wordCount_eq_pixelCount_iff :
    geometry.wordCount = geometry.pixelCount ↔ geometry.pixelCount < UInt64.size := by
  rw [wordCount_eq]
  exact ⟨fun same => same ▸ Nat.mod_lt _ (by decide), Nat.mod_eq_of_lt⟩

theorem pixelCount?_eq_some_iff :
    geometry.pixelCount? = some geometry.pixelCount ↔ geometry.pixelCount < UInt64.size := by
  rw [pixelCount?]
  split <;> simp_all

/-- The last pixel has a place only if there are as many places as pixels. -/
theorem indices_lt_iff (wide : 0 < geometry.width) (high : 0 < geometry.height) (places : Nat) :
    (∀ x < geometry.width, ∀ y < geometry.height, y * geometry.width + x < places) ↔
      geometry.pixelCount ≤ places := by
  constructor
  · intro inside
    have last := inside (geometry.width - 1) (by omega) (geometry.height - 1) (by omega)
    have count : geometry.pixelCount =
        (geometry.height - 1) * geometry.width + (geometry.width - 1) + 1 := by
      rw [Nat.add_assoc, Nat.sub_add_cancel wide, ← Nat.succ_mul, Nat.succ_eq_add_one,
        Nat.sub_add_cancel high]
      exact Nat.mul_comm ..
    rw [count]
    exact last
  · intro enough x beside y below
    exact Nat.lt_of_lt_of_le (index_lt_pixelCount beside below) enough

end Geometry

/-! ### Guarded building -/

/-- A blank panel, if no guard stops it from being built. -/
def Panel.build? (geometry : Geometry) : Option Panel := do
  let count ← geometry.pixelCount?
  let places ← Guarded.room? count
  some { geometry, pixels := Array.replicate places 0 }

theorem Panel.build?_eq (geometry : Geometry) :
    build? geometry =
      if 2 * geometry.pixelCount < UInt64.size then some (blank geometry) else none := by
  have places : geometry.pixelCount?.bind Guarded.room? = Guarded.room? geometry.pixelCount :=
    Guarded.word?_bind_room? geometry.pixelCount
  show (geometry.pixelCount?.bind fun count => (Guarded.room? count).bind _) = _
  rw [← Option.bind_assoc, places, Guarded.room?]
  split <;> rfl

/-! ### Checked settings -/

namespace Settings

/-- The panel that a session over settings starts with, if it can be built. -/
def panel? (settings : Settings) : Option Panel :=
  (Panel.build? settings.display.geometry).map fun blank =>
    (blank.setResetOnClear settings.display.resetOnClear).listen "viewers"

/-- What the check makes sure of for the panel. -/
theorem measures_of_check {settings : Settings} (accepted : settings.check = .ok ()) :
    cellWidth ≤ settings.display.width ∧ cellHeight ≤ settings.display.height ∧
      settings.display.height % cellHeight = 0 := by
  have passed : settings.display.check = .ok () := by
    rw [check] at accepted
    cases line : settings.serial.check with
    | error problem => rw [line] at accepted; cases accepted
    | ok done =>
      rw [line] at accepted
      cases panel : settings.display.check with
      | error problem => rw [panel] at accepted; cases accepted
      | ok done => rfl
  rw [Display.check] at passed
  split at passed
  · cases passed
  · split at passed
    · cases passed
    · omega

/-- What is read from a document has passed the check. -/
theorem check_of_ofYaml {text : String} {settings : Settings}
    (known : ofYaml text = .ok settings) : settings.check = .ok () := by
  rw [ofYaml] at known
  split at known
  · rename_i found _
    cases checked : found.check with
    | error problem => rw [checked] at known; cases known
    | ok done =>
      rw [checked] at known
      cases known
      exact checked
  · cases known

/-- For settings that pass the check, words count the pixels of the panel exactly, and give each of
them a place, if and only if their number fits into a word. The panel of a session over them can be
built if and only if so many bytes are less than half of the words. It is the panel that the session
has, with exactly that many pixels in its buffer, and every pixel has a place there. -/
theorem check_measures_iff {L : Type} [Link L] (link : L) (settings : Settings)
    (accepted : settings.check = .ok ()) :
    let geometry := settings.display.geometry
    let count := geometry.width * geometry.height
    let fits := count < UInt64.size
    (geometry.pixelCount? = some count ↔ fits) ∧
      (geometry.wordCount = count ↔ fits) ∧
      ((∀ x < geometry.width, ∀ y < geometry.height,
        y * geometry.width + x < geometry.wordCount) ↔ fits) ∧
      (settings.panel?.isSome = true ↔ 2 * count < UInt64.size) ∧
      ∀ panel, settings.panel? = some panel →
        panel = (Session.attach link settings).1.loop.panel ∧ panel.pixels.size = count ∧
          ∀ x < geometry.width, ∀ y < geometry.height,
            y * geometry.width + x < panel.pixels.size := by
  intro geometry count fits
  obtain ⟨width, height, -⟩ := measures_of_check accepted
  have wide : 0 < geometry.width := Nat.lt_of_lt_of_le (by decide) width
  have high : 0 < geometry.height := Nat.lt_of_lt_of_le (by decide) height
  have built : settings.panel? = if 2 * count < UInt64.size then
      some (Session.attach link settings).1.loop.panel else none := by
    rw [panel?, Panel.build?_eq, apply_ite (Option.map _)]
    rfl
  refine ⟨geometry.pixelCount?_eq_some_iff, geometry.wordCount_eq_pixelCount_iff, ?_, ?_,
    fun panel known => ?_⟩
  · rw [geometry.indices_lt_iff wide high, ← Nat.not_lt]
    show _ ↔ geometry.pixelCount < UInt64.size
    rw [← geometry.wordCount_eq_pixelCount_iff, geometry.wordCount_eq]
    have least : geometry.pixelCount % UInt64.size ≤ geometry.pixelCount := Nat.mod_le ..
    omega
  · rw [built]
    split <;> simp_all
  · obtain ⟨-, same⟩ := Option.ite_none_right_eq_some.mp (built.symm.trans known)
    cases same
    have size : (Session.attach link settings).1.loop.panel.pixels.size = count :=
      Array.size_replicate
    exact ⟨rfl, size, fun x beside y below => size ▸ Geometry.index_lt_pixelCount beside below⟩

/-- A panel that can be built. -/
theorem check_measures_iff_240_by_128 :
    let settings : Settings := { display := { width := 240, height := 128 } }
    settings.check = .ok () ∧ settings.display.geometry.wordCount = 240 * 128 ∧
      ∃ panel, settings.panel? = some panel ∧ panel.pixels.size = 240 * 128 ∧
        127 * 240 + 239 < panel.pixels.size := by
  intro settings
  have accepted : settings.check = .ok () := by decide
  obtain ⟨-, counted, -, built, panels⟩ := check_measures_iff ({} : Script) settings accepted
  obtain ⟨panel, known⟩ := Option.isSome_iff_exists.mp (built.mpr (by decide))
  obtain ⟨-, size, places⟩ := panels panel known
  exact ⟨accepted, counted.mpr (by decide), panel, known, size,
    places 239 (by decide) 127 (by decide)⟩

/-- A document that is read and accepted, although words count no pixel of its panel, which cannot
be built. -/
theorem accepts_uncountable_panel :
    let settings : Settings := { display := { width := 4294967296, height := 4294967296 } }
    (ofYaml "display: {width: 4294967296, height: 4294967296}").toOption = some settings ∧
      settings.check = .ok () ∧ settings.display.geometry.pixelCount? = none ∧
      settings.display.geometry.wordCount = 0 ∧ settings.panel? = none := by
  intro settings
  have known : (ofYaml "display: {width: 4294967296, height: 4294967296}").toOption =
      some settings := by decide +kernel
  have unbuilt : settings.panel? = none := by
    rw [panel?, Panel.build?_eq, if_neg (by decide)]
    rfl
  refine ⟨known, ?_, by decide, by decide, unbuilt⟩
  cases read : ofYaml "display: {width: 4294967296, height: 4294967296}" with
  | error problem => rw [read] at known; cases known
  | ok found =>
    rw [read] at known
    cases known
    exact check_of_ofYaml read

end Settings

end PanelLink
