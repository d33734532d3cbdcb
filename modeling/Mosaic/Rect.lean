/-! Half-open rectangles of pixels in machine integers. -/
namespace Mosaic

/-- The pixels with `minX ≤ x < maxX` and `minY ≤ y < maxY`. -/
structure Rect where
  minX : Int64 := 0
  minY : Int64 := 0
  maxX : Int64 := 0
  maxY : Int64 := 0
  deriving DecidableEq, Repr, Inhabited

namespace Rect

/-- The rectangle between two corners, given in any order. -/
def ofCorners (x₀ y₀ x₁ y₁ : Int64) : Rect :=
  { minX := min x₀ x₁, minY := min y₀ y₁, maxX := max x₀ x₁, maxY := max y₀ y₁ }

/-- Whether no pixel lies inside. -/
def isEmpty (rect : Rect) : Bool :=
  rect.maxX ≤ rect.minX || rect.maxY ≤ rect.minY

/-- Whether a pixel lies inside. -/
def contains (rect : Rect) (x y : Int) : Bool :=
  rect.minX.toInt ≤ x && x < rect.maxX.toInt && rect.minY.toInt ≤ y && y < rect.maxY.toInt

end Rect

end Mosaic
