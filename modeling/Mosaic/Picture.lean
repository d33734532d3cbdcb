import Mosaic.Color
import Mosaic.Rect

/-! Pictures are rectangles of colours. Their pixels are addressed from the upper left corner, wherever
that corner lies. -/
namespace Mosaic

/-- A picture. `pixel` counts columns and rows from the corner and is meaningful below `width` and
`height`; the colours it gives are straight if `isStraight` says so, and premultiplied otherwise. -/
structure Picture where
  minX : Int64 := 0
  minY : Int64 := 0
  width : Nat
  height : Nat
  isStraight : Bool := false
  pixel : Nat → Nat → Color
  deriving Inhabited

namespace Picture

/-- The premultiplied colour of a pixel, counted from the corner. -/
def color (picture : Picture) (x y : Nat) : Color :=
  if picture.isStraight then (picture.pixel x y).premultiply else picture.pixel x y

/-- The premultiplied colour at a point of the plane. -/
def colorAt (picture : Picture) (x y : Int) : Color :=
  picture.color (x - picture.minX.toInt).toNat (y - picture.minY.toInt).toNat

/-- Whether a property holds of all pixels. -/
def allPixels (picture : Picture) (property : Color → Bool) : Bool :=
  (List.range picture.height).all fun y =>
    (List.range picture.width).all fun x => property (picture.pixel x y)

/-- Whether every pixel is opaque. -/
def isOpaque (picture : Picture) : Bool := picture.allPixels Color.isOpaque

/-- The colours of all pixels, row by row. -/
def colors (picture : Picture) : List Color :=
  (List.range picture.height).flatMap fun y =>
    (List.range picture.width).map fun x => picture.color x y

/-- A copy in premultiplied colours with its corner at the origin. -/
def normalized (picture : Picture) : Picture :=
  { width := picture.width, height := picture.height, pixel := picture.color }

/-- Draws the part of a source that lies in a rectangle over a canvas. Corner lies on corner; what lies
outside the canvas or the source is left alone. -/
def blit (canvas source : Picture) (rect : Rect) : Picture :=
  { canvas with
    pixel := fun x y =>
      if rect.contains x y && x < source.width && y < source.height then source.color x y
      else canvas.pixel x y }

end Picture

end Mosaic
