import Mosaic.Picture
import Mosaic.Picture.Inflate

/-! PNG: chunks with a checksum each. The header comes first, then perhaps a palette and what is
transparent, then the compressed rows of pixels, and an end. Each row is written as differences from its
neighbours, in one of five ways. -/
namespace Mosaic.Png

/-- What a pixel consists of. -/
inductive Paint where
  | gray
  | color
  | palette
  | grayAlpha
  | colorAlpha
  deriving DecidableEq, Repr, Inhabited

namespace Paint

/-- The number of samples of a pixel. -/
def samples : Paint → Nat
  | gray => 1
  | color => 3
  | palette => 1
  | grayAlpha => 2
  | colorAlpha => 4

/-- The paint of a code and a depth in bits for each sample, where the two go together. -/
def ofCode? (code depth : Nat) : Option Paint :=
  match code with
  | 0 => if [1, 2, 4, 8, 16].contains depth then some gray else none
  | 2 => if [8, 16].contains depth then some color else none
  | 3 => if [1, 2, 4, 8].contains depth then some palette else none
  | 4 => if [8, 16].contains depth then some grayAlpha else none
  | 6 => if [8, 16].contains depth then some colorAlpha else none
  | _ => none

end Paint

/-- What the header says. -/
structure Header where
  width : Nat
  height : Nat
  depth : Nat
  paint : Paint
  isInterlaced : Bool
  deriving Inhabited

/-- How far reading has come. -/
inductive Stage where
  | start
  | header
  | palette
  | transparency
  | data
  deriving DecidableEq, Repr, Inhabited

/-- What has been read. The transparent colour is given by its bytes as they are written. -/
structure Reading where
  stage : Stage := .start
  header : Header := { width := 0, height := 0, depth := 8, paint := .gray, isInterlaced := false }
  palette : List Color := []
  transparent : Option Bytes := none
  picture : Picture := { width := 0, height := 0, pixel := fun _ _ => {} }
  deriving Inhabited

/-- A complaint about the file. -/
def malformed {α : Type} (complaint : String) : Except DecodeFault α := .error (.malformed .png complaint)

/-- Something that is not read. -/
def unsupported {α : Type} (feature : String) : Except DecodeFault α :=
  .error (.unsupported .png feature)

/-- A chunk that stands in the wrong place. -/
def outOfOrder {α : Type} : Except DecodeFault α := malformed "chunk out of order"

/-- A number of bytes and what follows them. -/
def take (bytes : Bytes) (count : Nat) : Except DecodeFault (Bytes × Bytes) :=
  match bytes.split? count with
  | some parts => .ok parts
  | none => .error .truncated

/-- What follows the checksum of a chunk, which is that of the chunk's name and content. -/
def verified (checked rest : Bytes) : Except DecodeFault Bytes := do
  let (sum, rest) ← take rest 4
  if sum.highFirst = Checksum.cyclic checked then return rest else malformed "invalid checksum"

/-- The greatest number of pixels, all of which have room in memory. -/
def pixelLimit : Nat := 0x1000000000000000

/-- Reads the content of a header. -/
def readHeader (content : Bytes) : Except DecodeFault Header := do
  let byte (i : Nat) : Nat := (content[i]?.getD 0).toNat
  let width := Bytes.signed (content.slice 0 4).highFirst
  let height := Bytes.signed (content.slice 4 4).highFirst
  if byte 10 != 0 then unsupported "compression method"
  if byte 11 != 0 then unsupported "filter method"
  if 1 < byte 12 then malformed "invalid interlace method"
  if width ≤ 0 || height ≤ 0 then malformed "non-positive dimension"
  if pixelLimit ≤ width.toNat * height.toNat then unsupported "dimension overflow"
  match Paint.ofCode? (byte 9) (byte 8) with
  | none => unsupported ("bit depth " ++ toString (byte 8) ++ ", color type " ++ toString (byte 9))
  | some paint =>
    return {
      width := width.toNat
      height := height.toNat
      depth := byte 8
      paint
      isInterlaced := byte 12 = 1 }

/-- The colours of a palette. -/
def paletteColors : Bytes → List Color
  | red :: green :: blue :: more => { red, green, blue, alpha := 255 } :: paletteColors more
  | _ => []

/-- A palette in which the first colours have the given alphas. The palette is filled up with black as far
as there are alphas. The result is premultiplied. -/
def withAlphas (palette : List Color) (alphas : Bytes) : List Color :=
  let missing := List.replicate (alphas.length - palette.length) ({ alpha := 255 } : Color)
  let all := palette ++ missing
  (all.zip (alphas.map some ++ List.replicate all.length none)).map fun (color, alpha) =>
    match alpha with
    | some alpha => Color.premultiply { color with alpha }
    | none => color

namespace Header

/-- The number of bits of a pixel. -/
def pixelBits (header : Header) : Nat := header.depth * header.paint.samples

/-- The number of bytes from a byte to the one for the same sample of the pixel to its left. -/
def stride (header : Header) : Nat := (header.pixelBits + 7) / 8

/-- A sample of a row. -/
def sample (header : Header) (row : Array UInt8) (i : Nat) : Nat :=
  let byte (i : Nat) : Nat := (row[i]?.getD 0).toNat
  if header.depth = 16 then 256 * byte (2 * i) + byte (2 * i + 1)
  else
    let bit := header.depth * i
    byte (bit / 8) / Nat.pow 2 (8 - header.depth - bit % 8) % Nat.pow 2 header.depth

/-- A sample brought to eight bits. -/
def toByte (header : Header) (sample : Nat) : UInt8 :=
  if header.depth = 16 then (sample / 256).toUInt8
  else (sample * (255 / (Nat.pow 2 header.depth - 1))).toUInt8

/-- Whether colours come out straight: those with alpha in eight bits. -/
def isStraight (header : Header) (transparent : Option Bytes) : Bool :=
  header.depth != 16 && header.paint != .palette &&
    (transparent.isSome || header.paint = .grayAlpha || header.paint = .colorAlpha)

/-- A channel of sixteen bits scaled by alpha. -/
def scaledDown (alpha channel : Nat) : UInt8 := (channel * alpha / 65535 / 256).toUInt8

/-- Whether a pixel has the colour that is transparent. Of colours in eight bits the lower bytes count,
and few shades of gray are first spread over all that there are. -/
def isClear (header : Header) (transparent : Bytes) (samples : List Nat) : Bool :=
  let words := (List.range samples.length).map fun i => (transparent.slice (2 * i) 2).highFirst
  if header.depth = 16 then words == samples
  else words.map (fun word => header.toByte (word % 256)) == samples.map header.toByte

/-- The colour of the pixel in a column of a row. -/
def color (header : Header) (palette : Array Color) (transparent : Option Bytes) (row : Array UInt8)
    (x : Nat) : Color :=
  let count := header.paint.samples
  let samples := (List.range count).map fun i => header.sample row (count * x + i)
  let byte (i : Nat) : UInt8 := header.toByte (samples[i]?.getD 0)
  let isClear := transparent.any fun clear => header.isClear clear samples
  let withAlpha (color : Color) (alpha : Nat) : Color :=
    if header.depth = 16 then
      { red := scaledDown alpha (samples[0]?.getD 0)
        green := scaledDown alpha (samples[if count = 4 then 1 else 0]?.getD 0)
        blue := scaledDown alpha (samples[if count = 4 then 2 else 0]?.getD 0)
        alpha := (alpha / 256).toUInt8 }
    else { color with alpha := alpha.toUInt8 }
  match header.paint with
  | .palette => palette[samples[0]?.getD 0]?.getD { alpha := 255 }
  | .gray =>
    if isClear then if header.depth = 16 then {} else { red := byte 0, green := byte 0, blue := byte 0 }
    else { red := byte 0, green := byte 0, blue := byte 0, alpha := 255 }
  | .color =>
    if isClear then if header.depth = 16 then {} else { red := byte 0, green := byte 1, blue := byte 2 }
    else { red := byte 0, green := byte 1, blue := byte 2, alpha := 255 }
  | .grayAlpha =>
    withAlpha { red := byte 0, green := byte 0, blue := byte 0 } (samples[1]?.getD 0)
  | .colorAlpha =>
    withAlpha { red := byte 0, green := byte 1, blue := byte 2 } (samples[3]?.getD 0)

end Header

/-- The neighbour nearest to the sum of left and up less the one between them. -/
def nearest (left up corner : UInt8) : UInt8 :=
  let a : Int := left.toNat
  let b : Int := up.toNat
  let c : Int := corner.toNat
  let fromLeft := (b - c).natAbs
  let fromUp := (a - c).natAbs
  let fromCorner := (a + b - 2 * c).natAbs
  if fromLeft ≤ fromUp && fromLeft ≤ fromCorner then left
  else if fromUp ≤ fromCorner then up
  else corner

/-- What a byte is a difference from, by the way in which its row is written; none for an unknown way. -/
def predicted? (way : UInt8) (left up corner : UInt8) : Option UInt8 :=
  match way with
  | 0 => some 0
  | 1 => some left
  | 2 => some up
  | 3 => some ((left.toNat + up.toNat) / 2).toUInt8
  | 4 => some (nearest left up corner)
  | _ => none

/-- A row from its differences and the row above it, which counts as zeros where it is missing. -/
def restored? (stride : Nat) (way : UInt8) (above : Array UInt8) (differences : List UInt8) :
    Option (Array UInt8) :=
  differences.foldlM (fun row difference => do
    let i := row.size
    let left := if i < stride then 0 else row[i - stride]?.getD 0
    let corner := if i < stride then 0 else above[i - stride]?.getD 0
    let expected ← predicted? way left (above[i]?.getD 0) corner
    return row.push (difference + expected)) #[]

/-- A part of the picture that is written by itself: every so many columns and rows from an offset. -/
structure Pass where
  xStep : Nat
  yStep : Nat
  x : Nat
  y : Nat
  deriving DecidableEq, Repr, Inhabited

namespace Pass

/-- The passes of an interlaced picture. -/
def interlaced : List Pass :=
  [⟨8, 8, 0, 0⟩, ⟨8, 8, 4, 0⟩, ⟨4, 8, 0, 4⟩, ⟨4, 4, 2, 0⟩, ⟨2, 4, 0, 2⟩, ⟨2, 2, 1, 0⟩, ⟨1, 2, 0, 1⟩]

/-- The passes of a picture. -/
def all (header : Header) : List Pass := if header.isInterlaced then interlaced else [⟨1, 1, 0, 0⟩]

/-- The number of columns in a pass. -/
def width (pass : Pass) (header : Header) : Nat :=
  (header.width + pass.xStep - 1 - pass.x) / pass.xStep

/-- The number of rows in a pass. -/
def height (pass : Pass) (header : Header) : Nat :=
  (header.height + pass.yStep - 1 - pass.y) / pass.yStep

/-- Whether a pixel is in a pass. -/
def contains (pass : Pass) (x y : Nat) : Bool :=
  pass.x ≤ x && pass.y ≤ y && (x - pass.x) % pass.xStep == 0 && (y - pass.y) % pass.yStep == 0

end Pass

/-- Reads rows of the given size one after the other, and gives what follows them. The fault is what a
read beyond the data gives. -/
def readRows (header : Header) (size : Nat) (shortage : DecodeFault) :
    Nat → Array UInt8 → Bytes → Except DecodeFault (List (Array UInt8) × Bytes)
  | 0, _, data => .ok ([], data)
  | count + 1, above, data =>
    match data.split? (size + 1) with
    | some (way :: differences, data) =>
      match restored? header.stride way above differences with
      | none => malformed "bad filter type"
      | some row =>
        match readRows header size shortage count row data with
        | .error fault => .error fault
        | .ok (rows, data) => .ok (row :: rows, data)
    | _ => .error shortage

/-- Reads the rows of passes, and gives what follows them. A pass without columns or rows is not
written. -/
def readPasses (header : Header) (shortage : DecodeFault) :
    List Pass → Bytes → Except DecodeFault (List (Pass × Array (Array UInt8)) × Bytes)
  | [], data => .ok ([], data)
  | pass :: more, data => do
    let size := (header.pixelBits * pass.width header + 7) / 8
    let count := if pass.width header = 0 then 0 else pass.height header
    let (rows, data) ← readRows header size shortage count #[] data
    let (passes, data) ← readPasses header shortage more data
    return ((pass, rows.toArray) :: passes, data)

/-- The picture of passes. -/
def assembled (reading : Reading) (passes : List (Pass × Array (Array UInt8))) : Picture :=
  let header := reading.header
  let palette := reading.palette.toArray
  { width := header.width
    height := header.height
    isStraight := header.isStraight reading.transparent
    pixel := fun x y =>
      match passes.find? fun (pass, _) => pass.contains x y with
      | some (pass, rows) =>
        let row := rows[(y - pass.y) / pass.yStep]?.getD #[]
        header.color palette reading.transparent row ((x - pass.x) / pass.xStep)
      | none => {} }

/-- The name of the chunks with compressed rows. -/
def dataName : Bytes := .ofString "IDAT"

/-- The number of bytes that are taken from a chunk at a time. -/
def blockSize : Nat := 4096

/-- The content of the data chunks from here on, as one, and what a read beyond it gives. `left` is the
number of bytes left in the chunk, and `rest` begins with them. -/
def dataStream : Nat → Nat → Bytes → Bytes × DecodeFault
  | 0, _, _ => ([], .truncated)
  | fuel + 1, left, rest =>
    let content := rest.take left
    if content.length < left then (content, .truncated)
    else
      match verified (dataName ++ content) (rest.drop left) with
      | .error fault => (content, fault)
      | .ok rest =>
        match rest.split? 8 with
        | none => (content, .truncated)
        | some (lead, rest) =>
          if lead.drop 4 != dataName then (content, .malformed .png "not enough pixel data")
          else
            let (more, ending) := dataStream fuel (Bytes.highFirst (lead.take 4)) rest
            (content ++ more, ending)

/-- What follows the data chunk in which reading ended after a number of bytes. Bytes are taken in blocks,
and all blocks of the chunk must have been taken. -/
def afterData : Nat → Nat → Nat → Bytes → Except DecodeFault Bytes
  | 0, _, _, _ => .error .truncated
  | fuel + 1, taken, left, rest =>
    if left < taken then do
      let rest ← verified (dataName ++ rest.take left) (rest.drop left)
      let (lead, rest) ← take rest 8
      afterData fuel (taken - left) (Bytes.highFirst (lead.take 4)) rest
    else if (taken + blockSize - 1) / blockSize * blockSize < left then malformed "too much pixel data"
    else verified (dataName ++ rest.take left) (rest.drop left)

/-- Reads the data chunks, the first of which has `left` bytes, and gives what follows the last. -/
def readData (reading : Reading) (left : Nat) (rest : Bytes) : Except DecodeFault (Picture × Bytes) := do
  let (stream, ending) := dataStream (rest.length + 1) left rest
  let unpacked ← Inflate.unpackChecked stream ending
  let shortage := match unpacked.fault with
    | none => DecodeFault.malformed .png "not enough pixel data"
    | some .truncated => .malformed .png "not enough pixel data"
    | some fault => fault
  let (passes, extra) ←
    readPasses reading.header shortage (Pass.all reading.header) unpacked.output.toList
  match unpacked.fault with
  | some fault => if extra.length ≤ 1 then malformed fault.message
  | none => pure ()
  if !extra.isEmpty then malformed "too much pixel data"
  let rest ← afterData (rest.length + 1) unpacked.taken left rest
  return (assembled reading passes, rest)

/-- Reads the content of a palette. Colours of other paints may come with one, which then does not
count. -/
def readPalette (reading : Reading) (length : Nat) (content : Bytes) : Except DecodeFault (List Color) :=
  let count := length / 3
  if length % 3 != 0 || count = 0 || Nat.pow 2 (min 8 reading.header.depth) < count then
    malformed "bad PLTE length"
  else if content.length < length then .error .truncated
  else
    match reading.header.paint with
    | .palette => .ok (paletteColors content)
    | .color => .ok []
    | .colorAlpha => .ok []
    | _ => malformed "PLTE, color type mismatch"

/-- Reads what is transparent. -/
def readTransparency (reading : Reading) (length : Nat) (content : Bytes) :
    Except DecodeFault Reading :=
  let fits : Option Bool := match reading.header.paint with
    | .gray => some (length == 2)
    | .color => some (length == 6)
    | .palette => some (decide (length ≤ 256))
    | _ => none
  match fits with
  | none => malformed "tRNS, color type mismatch"
  | some false => malformed "bad tRNS length"
  | some true =>
    if content.length < length then .error .truncated
    else if reading.header.paint = .palette then
      .ok { reading with palette := withAlphas reading.palette content }
    else .ok { reading with transparent := some content }

/-- Whether what is transparent may be said at a stage. -/
def takesTransparency (reading : Reading) : Bool :=
  match reading.header.paint with
  | .palette => reading.stage = .palette
  | .color => reading.stage = .header || reading.stage = .palette
  | _ => reading.stage = .header

/-- Whether data may begin at a stage. -/
def takesData (reading : Reading) : Bool :=
  match reading.stage with
  | .start => false
  | .header => reading.header.paint != .palette
  | _ => true

/-- The greatest length of a chunk that is skipped. -/
def lengthLimit : Nat := 0x7FFFFFFF

/-- Reads chunks up to the end. -/
def readChunks : Nat → Reading → Bytes → Except DecodeFault Picture
  | 0, _, _ => .error .truncated
  | fuel + 1, reading, bytes => do
    let (lead, rest) ← take bytes 8
    let length := Bytes.highFirst (lead.take 4)
    let name := lead.drop 4
    let content := rest.take length
    let finish : Except DecodeFault Bytes := verified (name ++ content) (rest.drop length)
    if name = Bytes.ofString "IHDR" then
      if reading.stage != .start then outOfOrder
      else if length != 13 then malformed "bad IHDR length"
      else if content.length < length then .error .truncated
      else
        let header ← readHeader content
        readChunks fuel { reading with stage := .header, header } (← finish)
    else if name = Bytes.ofString "PLTE" then
      if reading.stage != .header then outOfOrder
      else
        let palette ← readPalette reading length content
        readChunks fuel { reading with stage := .palette, palette } (← finish)
    else if name = Bytes.ofString "tRNS" then
      if !takesTransparency reading then outOfOrder
      else
        let reading ← readTransparency reading length content
        readChunks fuel { reading with stage := .transparency } (← finish)
    else if name = dataName && reading.stage != .data then
      if !takesData reading then outOfOrder
      else
        let (picture, rest) ← readData reading length rest
        readChunks fuel { reading with stage := .data, picture } rest
    else if name = Bytes.ofString "IEND" then
      if reading.stage != .data then outOfOrder
      else if length != 0 then malformed "bad IEND length"
      else
        let _ ← finish
        return reading.picture
    else if lengthLimit < length then malformed ("Bad chunk length: " ++ toString length)
    else if content.length < length then .error .truncated
    else readChunks fuel reading (← finish)

/-- The size of the signature. -/
def signatureSize : Nat := 8

/-- The picture in a file with the right signature. -/
def decode (bytes : Bytes) : Except DecodeFault Picture :=
  readChunks (bytes.length + 1) {} (bytes.drop signatureSize)

end Mosaic.Png
