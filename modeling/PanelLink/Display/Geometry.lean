/-
This file holds the measures of a panel: its size in pixels, the cells that texts
are written in, and the place of a pixel in the row-major buffer. Places past the
edges have no index, which is how everything drawn there is clipped.
-/

namespace PanelLink

/-- The width of a cell in pixels. -/
def cellWidth : Nat := 6

/-- The height of a cell in pixels. -/
def cellHeight : Nat := 8

/-- The size of a panel in pixels. -/
structure Geometry where
  width : Nat
  height : Nat
  deriving DecidableEq, Repr

namespace Geometry

/-- The panel of the reference firmware. -/
def reference : Geometry := ⟨128, 64⟩

/-- The number of whole cells side by side. -/
def columns (geometry : Geometry) : Nat :=
  geometry.width / cellWidth

/-- The number of whole cells one above the other. -/
def rows (geometry : Geometry) : Nat :=
  geometry.height / cellHeight

/-- The number of pixels. -/
def pixelCount (geometry : Geometry) : Nat :=
  geometry.width * geometry.height

/-- The number of pixels, if a machine word of 64 bits can hold it. -/
def pixelCount? (geometry : Geometry) : Option Nat :=
  if geometry.pixelCount < UInt64.size then some geometry.pixelCount else none

/-- The buffer index of a pixel, if the pixel is on the panel. -/
def index? (geometry : Geometry) (x y : Nat) : Option Nat :=
  if x < geometry.width ∧ y < geometry.height then some (y * geometry.width + x) else none

end Geometry

end PanelLink
