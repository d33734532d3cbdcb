import Mosaic.Picture

/-! Thumbnails: pictures scaled down to fit into a box by bicubic interpolation in floating point. -/
namespace Mosaic

namespace Resample

/-- The weight of a sample at a distance from the centre: the cubic that passes through the samples. -/
def weight (t : Float) : Float :=
  if t < 1 then (1.5 * t - 2.5) * t * t + 1 else ((-0.5 * t + 2.5) * t - 4) * t + 2

/-- The samples that make up one target position: their coordinates with weights, and one over the
total weight. -/
structure Samples where
  parts : List (Nat × Float)
  inverse : Float
  deriving Inhabited

/-- The samples for one target position. When the source is larger the kernel is widened to match. -/
def samples (source : Nat) (scale half narrow : Float) (position : Nat) : Samples :=
  let centre := (Float.ofNat position + 0.5) * scale - 0.5
  let first := (centre - half).floor.toInt64.toInt.toNat
  let last := min source (centre + half).ceil.toInt64.toInt.toNat
  let parts := ((List.range (last - first)).map (first + ·)).filterMap fun coordinate =>
    let t := ((centre - Float.ofNat coordinate) * narrow).abs
    if t ≥ 2 then none
    else
      let w := weight t
      if w == 0 then none else some (coordinate, w)
  { parts, inverse := 1 / (parts.foldl (fun total part => total + part.2) 0) }

/-- The samples for all target positions of an axis. -/
def axis (target source : Nat) : List Samples :=
  let scale := Float.ofNat source / Float.ofNat target
  let half := if scale > 1 then 2 * scale else 2
  let narrow := if scale > 1 then 1 / scale else 1
  (List.range target).map (samples source scale half narrow)

/-- Four channels in floating point. -/
structure Channels where
  red : Float := 0
  green : Float := 0
  blue : Float := 0
  alpha : Float := 0
  deriving Inhabited

/-- Adds channels with a weight. -/
def Channels.add (sum part : Channels) (w : Float) : Channels :=
  { red := sum.red + part.red * w, green := sum.green + part.green * w,
    blue := sum.blue + part.blue * w, alpha := sum.alpha + part.alpha * w }

/-- The channels of a pixel in sixteen bits, premultiplied. -/
def channels (picture : Picture) (x y : Nat) : Channels :=
  let color := picture.pixel x y
  let channel (c : UInt8) : Float :=
    Float.ofNat (if picture.isStraight then Color.scaled color.alpha c else c.toNat * 257)
  { red := channel color.red, green := channel color.green, blue := channel color.blue,
    alpha := Float.ofNat (color.alpha.toNat * 257) }

/-- One row scaled along the horizontal axis, with channels from zero to one. -/
def row (picture : Picture) (columns : List Samples) (y : Nat) : Array Channels :=
  (columns.map fun column =>
    let sum : Channels :=
      column.parts.foldl (fun sum (x, w) => sum.add (channels picture x y) w) {}
    let factor := column.inverse / 65535
    { red := sum.red * factor, green := sum.green * factor, blue := sum.blue * factor,
      alpha := sum.alpha * factor : Channels }).toArray

/-- A channel from zero to one as a byte. -/
def toByte (value : Float) : UInt8 :=
  let scaled := (65535 * value + 0.5).toInt64
  (((min (max scaled 0) 65535).toInt.toNat) / 256).toUInt8

/-- One pixel from the rows, scaled along the vertical axis. Channels do not exceed alpha. -/
def pixel (rows : Array (Array Channels)) (line : Samples) (x : Nat) : Color :=
  let sum : Channels := line.parts.foldl (fun sum (y, w) =>
    sum.add (((rows[y]?).bind (·[x]?)).getD {}) w) {}
  let channel (value : Float) : UInt8 :=
    toByte ((if value > sum.alpha then sum.alpha else value) * line.inverse)
  { red := channel sum.red, green := channel sum.green, blue := channel sum.blue,
    alpha := toByte (sum.alpha * line.inverse) }

/-- A picture scaled to a size. -/
def scale (picture : Picture) (width height : Nat) : Picture :=
  let columns := axis width picture.width
  let rows := ((List.range picture.height).map (row picture columns)).toArray
  let lines := axis height picture.height
  let pixels := (lines.map fun line =>
    ((List.range width).map (pixel rows line)).toArray).toArray
  { width, height, pixel := fun x y => ((pixels[y]?).bind (·[x]?)).getD {} }

end Resample

namespace Picture

/-- The size of a thumbnail in a box, aspect ratio kept and no side below one. None if the picture is
empty or fits already. -/
def thumbnailSize? (picture : Picture) (maxWidth maxHeight : Int64) : Option (Nat × Nat) :=
  let width := picture.width
  let height := picture.height
  if width = 0 || height = 0 || ((width : Int) ≤ maxWidth.toInt && (height : Int) ≤ maxHeight.toInt) then
    none
  else
    let across := maxWidth.toFloat / Float.ofNat width
    let down := maxHeight.toFloat / Float.ofNat height
    let factor := if down < across then down else across
    let side (n : Nat) : Nat := max 1 (Float.ofNat n * factor).toInt64.toInt.toNat
    some (side width, side height)

/-- The picture scaled down to fit into a box; the picture itself where it fits already. -/
def thumbnail (picture : Picture) (maxWidth maxHeight : Int64) : Picture :=
  match picture.thumbnailSize? maxWidth maxHeight with
  | none => picture
  | some (width, height) => Resample.scale picture width height

end Picture

end Mosaic
