import Mosaic.Clock
import Mosaic.Rect

/-! A tile is one column stripe of the picture together with what its renderer has reported. The
reports belong to the worker that renders the tile; everybody else holds copies. -/
namespace Mosaic

/-- The last report of a rendered line. -/
structure RenderReport where
  elapsed : Clock := {}
  line : Int64 := 0
  total : Int64 := 0
  deriving DecidableEq, Repr, Inhabited

/-- The last report of reading the scene. -/
structure ParseReport where
  elapsed : Clock := {}
  kilobytes : Int64 := 0
  deriving DecidableEq, Repr, Inhabited

/-- One column stripe. Columns and rows are counted from one and both bounds belong to the stripe. -/
structure Tile where
  outputFile : String := ""
  index : Int64 := 0
  startColumn : Int64 := 0
  endColumn : Int64 := 0
  startRow : Int64 := 0
  endRow : Int64 := 0
  render : RenderReport := {}
  parse : ParseReport := {}
  deriving DecidableEq, Repr, Inhabited

namespace Tile

/-- The stripe's place on the canvas, in coordinates counted from zero. -/
def rect (tile : Tile) : Rect :=
  .ofCorners (tile.startColumn - 1) (tile.startRow - 1) tile.endColumn tile.endRow

/-- The number of columns. -/
def columns (tile : Tile) : Int64 := tile.endColumn - tile.startColumn + 1

end Tile

/-- The stripe at a position when every stripe has `stride` columns. -/
def stripe (stride height index : Int64) : Tile :=
  let start := index * stride + 1
  { index := index
    startColumn := start
    endColumn := start + stride - 1
    startRow := 1
    endRow := height }

/-- Cuts the columns of a picture into exactly `workers` stripes of equal width, the least width that
covers them. The last stripes may reach past the right edge or lie beyond it; nothing is clipped.
There are no stripes for an empty picture or without workers. -/
def partition (width height workers : Int64) : List Tile :=
  if width < 1 || workers < 1 then []
  else
    let stride := (width + workers - 1) / workers
    (List.range workers.toInt.toNat).map fun i => stripe stride height (Int64.ofNat i)

end Mosaic
