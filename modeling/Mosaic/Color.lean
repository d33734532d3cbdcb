/-! Colours of four bytes. A colour is premultiplied if its channels have been scaled by alpha, and
straight if they have not. -/
namespace Mosaic

/-- A colour. -/
structure Color where
  red : UInt8 := 0
  green : UInt8 := 0
  blue : UInt8 := 0
  alpha : UInt8 := 0
  deriving DecidableEq, Repr, Inhabited

namespace Color

/-- Applies a function to the channels other than alpha. -/
def mapChannels (f : UInt8 → UInt8) (color : Color) : Color :=
  { color with red := f color.red, green := f color.green, blue := f color.blue }

/-- Whether nothing shines through. -/
def isOpaque (color : Color) : Bool := color.alpha == 255

/-- A straight channel scaled by alpha, in sixteen bits. -/
def scaled (alpha channel : UInt8) : Nat := channel.toNat * (alpha.toNat * 257) / 255

/-- The premultiplied form of a straight colour. -/
def premultiply (color : Color) : Color :=
  color.mapChannels fun channel => (scaled color.alpha channel / 256).toUInt8

/-- The straight form of a premultiplied colour. A fully transparent colour has none of its own and
becomes zero. -/
def straighten (color : Color) : Color :=
  if color.alpha = 0 then {}
  else if color.alpha = 255 then color
  else color.mapChannels fun channel =>
    (channel.toNat * 257 * 65535 / (color.alpha.toNat * 257) / 256).toUInt8

/-- A premultiplied colour in a file without alpha. -/
def withoutAlpha (color : Color) : Color :=
  if color.alpha = 0 then { alpha := 255 }
  else if color.alpha = 255 then color
  else
    { color.mapChannels fun channel => (channel.toNat * 65535 / color.alpha.toNat / 256).toUInt8 with
      alpha := 255 }

end Color

end Mosaic
