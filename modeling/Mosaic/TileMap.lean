import Mosaic.Error
import Mosaic.Picture
import Mosaic.Tile

/-! A map of the tiles: a picture in which each tile has a colour of its own. -/
namespace Mosaic.TileMap

/-- The number of colours that can be told apart. -/
def paletteSize : Nat := 186

/-- The rectangle of a picture of the given size. -/
def frame (width height : Int64) : Rect := .ofCorners 0 0 width height

/-- How far a tile's colour reaches from its corner, in all directions. -/
def reach : Int64 := 1000000000

/-- Where a tile has its colour: in its stripe as far as the colour reaches. -/
def paints (tile : Tile) (x y : Int) : Bool :=
  let rect := tile.rect
  let around : Rect := {
    minX := rect.minX - reach
    minY := rect.minY - reach
    maxX := rect.minX + reach
    maxY := rect.minY + reach }
  rect.contains x y && around.contains x y

/-- The position of the tile that is seen at a pixel: the last one that covers it. -/
def owner? (tiles : List Tile) (x y : Int) : Option Nat :=
  let covering := (tiles.zip (List.range tiles.length)).filter fun (tile, _) => paints tile x y
  covering.getLast?.map (·.2)

/-- The owners of all pixels, row by row. There are no more tiles than colours. -/
def draw (tiles : List Tile) (width height : Int64) : Except Error (List (List (Option Nat))) :=
  if paletteSize < tiles.length then .error .palette
  else
    let box := frame width height
    let rows := (List.range (box.maxY.toInt - box.minY.toInt).toNat).map (box.minY.toInt + Int.ofNat ·)
    let columns := (List.range (box.maxX.toInt - box.minX.toInt).toNat).map (box.minX.toInt + Int.ofNat ·)
    .ok (rows.map fun y => columns.map fun x => owner? tiles x y)

/-- The colour of the tile at a position. The channels change at different speeds, so that neighbours
differ clearly. -/
def paletteColor (position : Nat) : Color :=
  { red := (64 + 67 * position % 192).toUInt8
    green := (64 + 113 * position % 192).toUInt8
    blue := (64 + 29 * position % 192).toUInt8
    alpha := 255 }

/-- The map as a picture; what belongs to no tile is transparent. -/
def picture (tiles : List Tile) (width height : Int64) : Except Error Picture :=
  if paletteSize < tiles.length then .error .palette
  else
    let box := frame width height
    .ok {
      minX := box.minX
      minY := box.minY
      width := (box.maxX.toInt - box.minX.toInt).toNat
      height := (box.maxY.toInt - box.minY.toInt).toNat
      pixel := fun x y =>
        ((owner? tiles (box.minX.toInt + x) (box.minY.toInt + y)).map paletteColor).getD {} }

end Mosaic.TileMap
