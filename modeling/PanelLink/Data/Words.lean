/-
This file holds the words that stand for the modes of commands in data trees, and
the trees of measures.
-/

import PanelLink.Command.Mode
import PanelLink.Command.NumberFormat
import PanelLink.Data.Tree
import PanelLink.Display.Geometry

namespace PanelLink

open Data

/-- The words for the text modes. -/
def TextMode.words : List (String × TextMode) :=
  [("normal", .normal), ("inverse", .inverse)]

/-- The words for the severities. -/
def Severity.words : List (String × Severity) :=
  [("normal", .normal), ("error", .error), ("ok", .ok)]

/-- The words for the number formats. -/
def NumberFormat.words : List (String × NumberFormat) :=
  [("u8hex", .hex8), ("u16hex", .hex16), ("u32hex", .hex32), ("u8dec", .dec8),
    ("u16dec", .dec16), ("u8bin", .bin8), ("u16bin", .bin16), ("u32bin", .bin32)]

/-- The number of different sizes. -/
def sizeLimit : Nat := UInt64.size

/-- The size of a panel from a record; both fields have to be there. -/
def Geometry.read? {Tree : Type} [View Tree] (tree : Tree) : Option Geometry := do
  let fields ← View.fields? ["width", "height"] tree
  let width ← field? fields "width" (below? sizeLimit) none
  let height ← field? fields "height" (below? sizeLimit) none
  return ⟨width, height⟩

/-- The size of a panel as a record. -/
def Geometry.toTree (geometry : Geometry) : Tree :=
  .record [("width", .natural geometry.width), ("height", .natural geometry.height)]

end PanelLink
