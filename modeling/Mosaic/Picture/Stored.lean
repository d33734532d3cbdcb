import Mosaic.Picture.Bitmap
import Mosaic.Picture.Jpeg
import Mosaic.Picture.Png
import Mosaic.Picture.Tiff

/-! What is left of a picture that has been written to a file and read back. The bytes of the file do
not matter here: an encoding is what it keeps of a picture. -/
namespace Mosaic

namespace Encoding

/-- What the width and the height of a PNG stay below. -/
def pngLimit : Nat := 4294967296

/-- The greatest width and height of a JPEG. -/
def jpegLimit : Nat := 65535

/-- Whether a picture has a side that a PNG cannot have. -/
def exceedsPng (picture : Picture) : Bool :=
  picture.width = 0 || picture.height = 0 || pngLimit ≤ picture.width || pngLimit ≤ picture.height

/-- Accepts a picture that can be written. PNG has no empty pictures, and neither PNG nor JPEG has
arbitrarily large ones. -/
def accepts (encoding : Encoding) (picture : Picture) : Except Error Unit :=
  match encoding with
  | .png =>
    if exceedsPng picture then .error (.pictureSize picture.width picture.height) else .ok ()
  | .jpeg =>
    if jpegLimit < picture.width || jpegLimit < picture.height then .error .largePicture else .ok ()
  | _ => .ok ()

/-- What a reader sees of a written picture. PNG keeps straight colours unless everything is opaque,
TIFF keeps colours as they are, BMP and JPEG have no alpha. An empty JPEG has lost both sides. Of any
other JPEG only the size is exact: the colours given here are those that it comes close to. -/
def kept (encoding : Encoding) (picture : Picture) : Picture :=
  let corner := { picture with minX := 0, minY := 0 }
  match encoding with
  | .png =>
    if picture.isOpaque then { corner with isStraight := false }
    else if picture.isStraight then corner
    else { corner with isStraight := true, pixel := fun x y => (picture.pixel x y).straighten }
  | .tiff => corner
  | .bmp =>
    if picture.isStraight then
      { corner with isStraight := false, pixel := fun x y => { picture.pixel x y with alpha := 255 } }
    else { corner with pixel := fun x y => (picture.pixel x y).withoutAlpha }
  | .jpeg =>
    let isEmpty := picture.width = 0 || picture.height = 0
    { corner with
      width := if isEmpty then 0 else picture.width
      height := if isEmpty then 0 else picture.height
      isStraight := false
      pixel := fun x y => { picture.color x y with alpha := 255 } }

end Encoding

/-- What a file holds: bytes, or a picture in some encoding. -/
inductive Content where
  | bytes (bytes : Bytes)
  | picture (encoding : Encoding) (picture : Picture)
  deriving Inhabited

namespace Content

/-- The signatures by which picture files are recognised, in which none stands for any byte, and how such
files are read. -/
def decoders : List (List (Option UInt8) × (Bytes → Except DecodeFault Picture)) :=
  [([some 0x89, some 0x50, some 0x4E, some 0x47, some 0x0D, some 0x0A, some 0x1A, some 0x0A], Png.decode),
    ([some 0xFF, some 0xD8], Jpeg.decode),
    ([some 0x42, some 0x4D, none, none, none, none, some 0, some 0, some 0, some 0], Bitmap.decode),
    ([some 0x49, some 0x49, some 0x2A, some 0], Tiff.decode),
    ([some 0x4D, some 0x4D, some 0, some 0x2A], Tiff.decode)]

/-- Whether bytes begin with a signature. -/
def begins : List (Option UInt8) → Bytes → Bool
  | [], _ => true
  | none :: more, _ :: rest => begins more rest
  | some expected :: more, byte :: rest => expected == byte && begins more rest
  | _ :: _, [] => false

/-- The picture in a file. -/
def decode : Content → Except DecodeFault Picture
  | .picture encoding shown => .ok (encoding.kept shown)
  | .bytes data =>
    match decoders.find? fun (signature, _) => begins signature data with
    | some (_, decoder) => decoder data
    | none => .error .unknownFormat

end Content

end Mosaic
