import Mosaic.Error
import Mosaic.Picture
import Mosaic.Picture.Word

/-! Bitmaps: a header, a palette for pictures of few colours, and rows of pixels that are filled up to
whole words. The rows stand from the lowest to the highest unless the height is negative. -/
namespace Mosaic.Bitmap

/-- What the header of a bitmap says. -/
structure Header where
  width : Nat
  height : Nat
  isTopDown : Bool
  depth : Nat
  hasAlpha : Bool := false
  palette : Array Color := #[]
  deriving Inhabited

/-- The size of what stands before the header's own fields. -/
def leadSize : Nat := 14

/-- The size of the oldest header; later ones are longer and may say more. -/
def plainSize : Nat := 40

/-- The sizes of headers that are read. -/
def headerSizes : List Nat := [plainSize, 108, 124]

/-- The masks of blue, green and red below alpha, as they are where nothing else is said. -/
def standardMasks : List Nat := [0xFF0000, 0xFF00, 0xFF, 0xFF000000]

/-- What is not read. -/
def unsupported : DecodeFault := .unsupported .bmp ""

/-- The fault of data that end where more is demanded. -/
def shortage (available : Nat) : DecodeFault := if available = 0 then .ended else .truncated

/-- A colour of a palette; blue stands first. -/
def paletteColor : Bytes → Color
  | blue :: green :: red :: _ => { red, green, blue, alpha := 255 }
  | _ => {}

/-- Reads the palette: as many colours as the header says, or else as many as the depth allows. -/
def readPalette (fields : Bytes) (depth offset : Nat) (rest : Bytes) :
    Except DecodeFault (Array Color × Bytes) :=
  let used := (fields.slice 46 4).lowFirst
  let count := if used = 0 then Nat.pow 2 depth else used
  if Nat.pow 2 depth < count || offset != fields.length + 4 * count then .error unsupported
  else
    match rest.split? (4 * count) with
    | none => .error (shortage rest.length)
    | some (colors, rest) =>
      .ok (((List.range count).map fun i => paletteColor (colors.drop (4 * i))).toArray, rest)

/-- Reads the header and the palette, and gives what follows. -/
def readHeader (bytes : Bytes) : Except DecodeFault (Header × Bytes) :=
  match bytes.split? (leadSize + 4) with
  | none => .error .truncated
  | some (lead, _) =>
    let offset := (lead.slice 10 4).lowFirst
    let size := (lead.slice 14 4).lowFirst
    if !headerSizes.contains size then .error unsupported
    else
      match bytes.split? (leadSize + size) with
      | none => .error .truncated
      | some (fields, rest) =>
        let width := Bytes.signed (fields.slice 18 4).lowFirst
        let height := Bytes.signed (fields.slice 22 4).lowFirst
        let planes := (fields.slice 26 2).lowFirst
        let depth := (fields.slice 28 2).lowFirst
        let compression := (fields.slice 30 4).lowFirst
        let masks := [54, 58, 62, 66].map fun start => (fields.slice start 4).lowFirst
        let isPlain := compression = 0 ||
          (compression = 3 && plainSize < size && masks == standardMasks)
        let header : Header := {
          width := width.toNat
          height := height.natAbs
          isTopDown := height < 0
          depth
          hasAlpha := plainSize < size }
        if width < 0 || planes != 1 || !isPlain then .error unsupported
        else if [1, 2, 4, 8].contains depth then
          match readPalette fields depth offset rest with
          | .error fault => .error fault
          | .ok (palette, rest) => .ok ({ header with palette }, rest)
        else if [24, 32].contains depth && offset = fields.length then .ok (header, rest)
        else .error unsupported

namespace Header

/-- The size of a row in bytes: whole words. -/
def rowSize (header : Header) : Nat := (header.depth * header.width + 31) / 32 * 4

/-- The colour in a column of a row that begins at a position. -/
def color (header : Header) (data : Array UInt8) (start x : Nat) : Color :=
  let byte (i : Nat) : UInt8 := data[start + i]?.getD 0
  if header.depth = 24 then
    { red := byte (3 * x + 2), green := byte (3 * x + 1), blue := byte (3 * x), alpha := 255 }
  else if header.depth = 32 then
    { red := byte (4 * x + 2)
      green := byte (4 * x + 1)
      blue := byte (4 * x)
      alpha := if header.hasAlpha then byte (4 * x + 3) else 255 }
  else
    let bit := header.depth * x
    let index :=
      (byte (bit / 8)).toNat / Nat.pow 2 (8 - header.depth - bit % 8) % Nat.pow 2 header.depth
    header.palette[index]?.getD { alpha := 255 }

end Header

/-- The picture in a bitmap. -/
def decode (bytes : Bytes) : Except DecodeFault Picture :=
  match readHeader bytes with
  | .error fault => .error fault
  | .ok (header, rest) =>
    let isEmpty := header.width = 0 || header.height = 0
    if !isEmpty && rest.length < header.rowSize * header.height then
      .error (shortage (rest.length % header.rowSize))
    else
      let data := rest.toArray
      .ok {
        width := header.width
        height := header.height
        isStraight := header.depth = 32
        pixel := fun x y =>
          let row := if header.isTopDown then y else header.height - 1 - y
          header.color data (row * header.rowSize) x }

end Mosaic.Bitmap
