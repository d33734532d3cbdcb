import Mosaic.Job
import Mosaic.Progress

/-! The board shows how a job stands: the job and the latest copies of its tiles. -/
namespace Mosaic

/-- A job and the latest copies of its tiles. -/
structure Board where
  job : Job := {}
  tiles : List Tile := []
  deriving DecidableEq, Repr, Inhabited

/-- Puts a tile in the place of its index; a tile whose index has no place changes nothing. -/
def place (tiles : List Tile) (tile : Tile) : List Tile :=
  if 0 ≤ tile.index.toInt && tile.index.toInt < tiles.length then
    tiles.set tile.index.toInt.toNat tile
  else tiles

namespace Board

/-- Takes in the latest copy of a tile. -/
def update (board : Board) (tile : Tile) : Board :=
  { board with tiles := place board.tiles tile }

/-- The finished share of the whole job in percent, if there is one. -/
def progress? (board : Board) : Option Int64 := Progress.percent? board.tiles board.job.height

/-- The slowest rendering time. -/
def elapsedText (board : Board) : String := (Progress.elapsed board.tiles).text

/-- The slowest time for reading the scene. -/
def parseText (board : Board) : String := (Progress.parseElapsed board.tiles).text

/-- One line on how the job stands. Until a line is rendered the renderers still read the scene. Without
a share there is no line. -/
def statusLine? (board : Board) : Option String :=
  board.progress?.map fun progress =>
    if progress = 0 then "Initializing render... " ++ board.parseText
    else "Rendering: " ++ Text.alignRight 3 (Text.decimal progress) ++ "% " ++ board.elapsedText

end Board

end Mosaic
