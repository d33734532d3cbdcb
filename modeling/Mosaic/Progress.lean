import Mosaic.Marker

/-! How far a tile and a whole job have come. -/
namespace Mosaic

/-- Applies the markers of a piece of renderer output in order, so the last marker of each kind
decides. Output without markers leaves the tile as it is. -/
def Tile.advance (tile : Tile) (output : Bytes) : Tile :=
  { tile with
    render := (Marker.all Marker.render? output).getLast?.getD tile.render
    parse := (Marker.all Marker.parse? output).getLast?.getD tile.parse }

namespace Progress

/-- A tile's finished lines, kept between zero and the picture's height. -/
def contribution (height : Int64) (tile : Tile) : Int64 :=
  min (max tile.render.line 0) height

/-- The finished share in percent, rounded down: one hundred times the finished lines over all lines
of all tiles, in machine arithmetic, brought into the range from 0 to 100. None where the number of
all lines wraps to zero and the share does not exist. -/
def percent? (tiles : List Tile) (height : Int64) : Option Int64 :=
  if tiles.isEmpty || height ≤ 0 then some 0
  else
    let finished := (tiles.map (contribution height)).foldl (· + ·) 0
    let total := Int64.ofNat tiles.length * height
    if total = 0 then none
    else some (min (max (100 * finished / total) 0) 100)

/-- The slowest rendering time, unit by unit. -/
def elapsed (tiles : List Tile) : Clock :=
  Clock.supremum (tiles.map (·.render.elapsed))

/-- The slowest time for reading the scene, unit by unit. -/
def parseElapsed (tiles : List Tile) : Clock :=
  Clock.supremum (tiles.map (·.parse.elapsed))

end Progress

end Mosaic
