import Mosaic.Picture
import Mosaic.Picture.Inflate
import Mosaic.Picture.Lzw

/-! TIFF: a directory of fields that may stand anywhere in the file, and the pixels in strips or in tiles,
each of which is packed by itself. Numbers are written with the lowest byte first or with the highest, as
the file says. -/
namespace Mosaic.Tiff

/-- The kinds of pixels. -/
inductive Paint where
  | gray
  | grayInverted
  | palette
  | color
  | colorAlpha
  | colorStraightAlpha
  | ink
  deriving DecidableEq, Repr, Inhabited

/-- The tags of the fields that matter. -/
inductive Tag where
  | width
  | height
  | sampleBits
  | compression
  | paint
  | stripOffsets
  | stripRows
  | stripSizes
  | predictor
  | palette
  | tileWidth
  | tileHeight
  | tileOffsets
  | tileSizes
  | extraSamples
  | sampleFormat
  | other
  deriving DecidableEq, Repr, Inhabited

namespace Tag

/-- The tag of a number; none for a field that is skipped. -/
def ofNumber? : Nat → Option Tag
  | 256 => some width
  | 257 => some height
  | 258 => some sampleBits
  | 259 => some compression
  | 262 => some paint
  | 266 => some other
  | 273 => some stripOffsets
  | 278 => some stripRows
  | 279 => some stripSizes
  | 292 => some other
  | 293 => some other
  | 317 => some predictor
  | 320 => some palette
  | 322 => some tileWidth
  | 323 => some tileHeight
  | 324 => some tileOffsets
  | 325 => some tileSizes
  | 338 => some extraSamples
  | 339 => some sampleFormat
  | _ => none

end Tag

/-- A file as it is read: what follows the part that has been asked for counts as unread, which decides
whether a file that is too short ended or broke off. -/
structure File where
  bytes : Bytes
  isHighFirst : Bool := false
  seen : Nat := 0
  deriving Inhabited

/-- Reading, which may fail. -/
abbrev Reading (α : Type) := StateT File (Except DecodeFault) α

/-- A complaint about the file. -/
def malformed {α : Type} (complaint : String) : Reading α := throw (.malformed .tiff complaint)

/-- Something that is not read. -/
def unsupported {α : Type} (feature : String) : Reading α := throw (.unsupported .tiff feature)

/-- The number of the given bytes. -/
def File.number (file : File) (bytes : Bytes) : Nat :=
  if file.isHighFirst then bytes.highFirst else bytes.lowFirst

/-- A number of bytes from a position on. -/
def bytesAt (start count : Nat) : Reading Bytes := do
  let file ← get
  let stop := start + count
  if stop ≤ file.seen then return file.bytes.slice start count
  else if stop ≤ file.bytes.length then
    set { file with seen := stop }
    return file.bytes.slice start count
  else throw (if file.seen < file.bytes.length then .truncated else .ended)

/-- A part of the file that may be shorter than asked for, and what a read beyond it gives. -/
def sectionAt (start count : Nat) : Reading (Bytes × DecodeFault) := do
  let file ← get
  let part := file.bytes.slice start count
  let ending : DecodeFault :=
    if start + count ≤ file.bytes.length || file.bytes.length ≤ file.seen then .ended else .truncated
  set { file with seen := max file.seen (min (start + count) file.bytes.length) }
  return (part, ending)

/-- The fields of a directory: their tags and numbers. -/
abbrev Fields := List (Tag × List Nat)

/-- The numbers of a field. -/
def Fields.all (fields : Fields) (tag : Tag) : List Nat := (fields.lookup tag).getD []

/-- The first number of a field, zero if it has none. -/
def Fields.first (fields : Fields) (tag : Tag) : Nat := (fields.all tag).headD 0

/-- The size of a directory's entry. -/
def entrySize : Nat := 12

/-- The size of a number by its type: byte, character, two bytes, four bytes, fraction. -/
def typeSize? : Nat → Option Nat
  | 1 => some 1
  | 2 => some 1
  | 3 => some 2
  | 4 => some 4
  | 5 => some 8
  | _ => none

/-- Bytes in groups of a size. -/
def groups (size : Nat) (count : Nat) (bytes : Bytes) : List Bytes :=
  (List.range count).map fun i => bytes.slice (size * i) size

/-- The numbers of an entry. Few of them stand in the entry, more elsewhere in the file. -/
def entryNumbers (entry : Bytes) : Reading (List Nat) := do
  let file ← get
  let type := file.number (entry.slice 2 2)
  let count := file.number (entry.slice 4 4)
  match typeSize? type with
  | none => unsupported "IFD entry datatype"
  | some size =>
    if 0x7FFFFFFF / size < count then malformed "IFD data too large"
    let raw ← if 4 < size * count then bytesAt (file.number (entry.slice 8 4)) (size * count)
      else pure (entry.slice 8 (size * count))
    if [1, 3, 4].contains type then return (groups size count raw).map file.number
    else unsupported "data type"

/-- Reads an entry; none if it is skipped. -/
def readEntry (entry : Bytes) : Reading (Option (Tag × List Nat)) := do
  let file ← get
  match Tag.ofNumber? (file.number (entry.slice 0 2)) with
  | none => return none
  | some tag =>
    let numbers ← entryNumbers entry
    let colors := numbers.length / 3
    if tag = .palette && (numbers.length % 3 != 0 || colors = 0 || 256 < colors) then
      malformed "bad ColorMap length"
    if tag = .sampleFormat && numbers.any (· != 1) then unsupported "sample format"
    return some (tag, numbers)

/-- Reads entries, whose numbers grow. -/
def readEntries : Int → List Bytes → Reading Fields
  | _, [] => return []
  | previous, entry :: more => do
    let field ← readEntry entry
    let number : Int := (← get).number (entry.slice 0 2)
    if number ≤ previous then malformed "tags are not sorted in ascending order"
    let fields ← readEntries number more
    return field.toList ++ fields

/-- The size of what stands at the front of a file. -/
def leadSize : Nat := 8

/-- Reads the directory. -/
def readDirectory : Reading Fields := do
  let file ← get
  if file.bytes.length < leadSize then throw .truncated
  let lead ← bytesAt 0 leadSize
  let file := { file with isHighFirst := lead.head? = some 0x4D, seen := leadSize }
  set file
  let start := file.number (lead.slice 4 4)
  let count := file.number (← bytesAt start 2)
  let entries ← bytesAt (start + 2) (entrySize * count)
  readEntries (-1) (groups entrySize count entries)

/-- The bits of the samples of a pixel; one bit where nothing is said. -/
def sampleBits (fields : Fields) : List Nat := (fields.lookup .sampleBits).getD [1]

/-- The number of bits of a sample. -/
def depth (fields : Fields) : Nat := (sampleBits fields).headD 0

/-- The kind of the pixels of three or four samples. -/
def readColorPaint (fields : Fields) : Reading Paint := do
  let bits := sampleBits fields
  if depth fields = 16 then
    if bits.any (· != 16) then malformed "wrong number of samples for 16bit RGB"
  else if bits.any (· != 8) then malformed "wrong number of samples for 8bit RGB"
  match bits.length, fields.first .extraSamples with
  | 3, _ => return .color
  | 4, 1 => return .colorAlpha
  | 4, 2 => return .colorStraightAlpha
  | _, _ => malformed "wrong number of samples for RGB"

/-- The kind of the pixels. -/
def readPaint (fields : Fields) : Reading Paint := do
  match depth fields with
  | 0 => malformed "BitsPerSample must not be 0"
  | 1 | 8 | 16 => pure ()
  | other => unsupported ("BitsPerSample of " ++ toString other)
  match fields.first .paint with
  | 0 => return .grayInverted
  | 1 => return .gray
  | 2 => readColorPaint fields
  | 3 => return .palette
  | 5 => if depth fields = 16 then unsupported "CMYK BitsPerSample of 16" else return .ink
  | _ => unsupported "color model"

/-- A rectangle of pixels that is packed by itself. It may reach beyond the picture. -/
structure Block where
  x : Nat
  y : Nat
  width : Nat
  height : Nat
  data : Array UInt8 := #[]
  deriving Inhabited

/-- How pixels are written. -/
structure Layout where
  width : Nat
  height : Nat
  paint : Paint
  depth : Nat
  samples : Nat
  isHighFirst : Bool
  palette : Array Color
  deriving Inhabited

namespace Layout

/-- The number of columns of a block that lie in the picture. -/
def columns (layout : Layout) (block : Block) : Nat :=
  min (block.x + block.width) layout.width - block.x

/-- The number of rows of a block that lie in the picture. -/
def rows (layout : Layout) (block : Block) : Nat :=
  min (block.y + block.height) layout.height - block.y

/-- Whether a pixel is one sample of at most eight bits. -/
def isNarrow (layout : Layout) : Bool :=
  layout.paint = .palette ||
    (layout.depth != 16 && (layout.paint = .gray || layout.paint = .grayInverted))

/-- The number of bytes of a pixel that takes whole bytes. -/
def pixelSize (layout : Layout) : Nat :=
  let samples := match layout.paint with
    | .color => 3
    | .colorAlpha | .colorStraightAlpha | .ink => 4
    | _ => 1
  if layout.depth = 16 then 2 * samples else samples

/-- The number of bytes from one row of a block to the next. Narrow samples fill up whole bytes. -/
def rowSize (layout : Layout) (block : Block) : Nat :=
  if layout.isNarrow then (layout.depth * layout.columns block + 7) / 8
  else layout.pixelSize * block.width

/-- The number that begins at a byte, in sixteen bits or in eight. -/
def sample (layout : Layout) (data : Array UInt8) (i : Nat) : Nat :=
  let byte (i : Nat) : UInt8 := data[i]?.getD 0
  if layout.depth = 16 then
    if layout.isHighFirst then Bytes.highFirst [byte i, byte (i + 1)]
    else Bytes.lowFirst [byte i, byte (i + 1)]
  else (byte i).toNat

/-- A narrow sample in a column of a row. -/
def narrow (layout : Layout) (block : Block) (row column : Nat) : Nat :=
  let bit := layout.depth * column
  let start := row * layout.rowSize block + bit / 8
  let byte (i : Nat) : Nat := (block.data[i]?.getD 0).toNat
  if layout.depth = 16 then 256 * byte start + byte (start + 1)
  else byte start / Nat.pow 2 (8 - layout.depth - bit % 8) % Nat.pow 2 layout.depth

/-- The position after a pixel. Pixels of four bytes are demanded row by row. -/
def stop (layout : Layout) (block : Block) (row column : Nat) : Nat :=
  let isWhole := layout.depth != 16 &&
    [Paint.colorAlpha, .colorStraightAlpha, .ink].contains layout.paint
  if layout.isNarrow then row * layout.rowSize block + (layout.depth * (column + 1) + 7) / 8
  else if isWhole then (row + 1) * layout.rowSize block
  else row * layout.rowSize block + layout.pixelSize * (column + 1)

/-- The colour of a pixel of a block. -/
def color (layout : Layout) (block : Block) (row column : Nat) : Color :=
  let start := row * layout.rowSize block + layout.pixelSize * column
  let size := if layout.depth = 16 then 2 else 1
  let sample (i : Nat) : Nat := layout.sample block.data (start + size * i)
  let byte (i : Nat) : UInt8 :=
    if layout.depth = 16 then (sample i / 256).toUInt8 else (sample i).toUInt8
  let shade (level : UInt8) : Color := { red := level, green := level, blue := level, alpha := 255 }
  match layout.paint with
  | .gray =>
    if layout.depth = 16 then shade (byte 0)
    else shade (layout.narrow block row column * 255 / (Nat.pow 2 layout.depth - 1)).toUInt8
  | .grayInverted =>
    if layout.depth = 16 then shade ((65535 - sample 0) / 256).toUInt8
    else shade (255 - layout.narrow block row column * 255 / (Nat.pow 2 layout.depth - 1)).toUInt8
  | .palette => layout.palette[layout.narrow block row column % 256]?.getD {}
  | .color => { red := byte 0, green := byte 1, blue := byte 2, alpha := 255 }
  | .colorAlpha => { red := byte 0, green := byte 1, blue := byte 2, alpha := byte 3 }
  | .colorStraightAlpha =>
    if layout.depth = 16 then
      let scaled (i : Nat) : UInt8 := (sample i * sample 3 / 65535 / 256).toUInt8
      { red := scaled 0, green := scaled 1, blue := scaled 2, alpha := byte 3 }
    else { red := byte 0, green := byte 1, blue := byte 2, alpha := byte 3 }
  | .ink =>
    let light := 65535 - sample 3 * 257
    let scaled (i : Nat) : UInt8 := ((65535 - sample i * 257) * light / 65535 / 256).toUInt8
    { red := scaled 0, green := scaled 1, blue := scaled 2, alpha := 255 }

/-- Accepts a block that has all its pixels, and all of a palette's colours. -/
def check (layout : Layout) (block : Block) : Except DecodeFault Unit :=
  (List.range (layout.rows block)).forM fun row =>
    if block.data.size < layout.stop block row 0 then .error (.malformed .tiff "not enough pixel data")
    else
      (List.range (layout.columns block)).forM fun column =>
        if block.data.size < layout.stop block row column then
          .error (.malformed .tiff "not enough pixel data")
        else if layout.paint = .palette &&
            layout.palette.size ≤ layout.narrow block row column % 256 then
          .error (.malformed .tiff "invalid color index")
        else .ok ()

/-- Adds to every sample of a row the one to its left; none if the data end before. `start` is where the
row's second pixel begins. -/
def undoRow? (layout : Layout) (size : Nat) : Nat → Nat → Array UInt8 → Option (Array UInt8)
  | 0, _, data => some data
  | count + 1, start, data =>
    let back := size * layout.samples
    if data.size < start + size then none
    else
      let sum := layout.sample data (start - back) + layout.sample data start
      let high := (sum / 256).toUInt8
      let low := sum.toUInt8
      let data :=
        if size = 1 then data.setIfInBounds start low
        else if layout.isHighFirst then
          (data.setIfInBounds start high).setIfInBounds (start + 1) low
        else (data.setIfInBounds start low).setIfInBounds (start + 1) high
      undoRow? layout size count (start + size) data

/-- Undoes differences between neighbours in all rows of a block; none if the data end before. -/
def undo? (layout : Layout) (block : Block) : Option (Array UInt8) :=
  let size := layout.depth / 8
  let back := size * layout.samples
  let count := (block.width - 1) * layout.samples
  let rowSize := back + size * count
  let rec rows : Nat → Nat → Array UInt8 → Option (Array UInt8)
    | 0, _, data => some data
    | fuel + 1, row, data =>
      (undoRow? layout size count (row * rowSize + back) data).bind (rows fuel (row + 1))
  rows block.height 0 block.data

end Layout

/-- Undoes the packing of runs: a length and bytes as they are, or a negative length and a byte to
repeat. The fault is what a read beyond the data gives. -/
def unpackRuns (ending : DecodeFault) : Nat → Array UInt8 → Bytes → Except DecodeFault (Array UInt8)
  | 0, output, _ => .ok output
  | _, output, [] => if ending = .ended then .ok output else .error ending
  | fuel + 1, output, code :: rest =>
    if code < 128 then
      let count := code.toNat + 1
      if rest.length < count then
        .error (if rest = [] && ending = .ended then .ended else .truncated)
      else unpackRuns ending fuel (output ++ (rest.take count).toArray) (rest.drop count)
    else if code = 128 then unpackRuns ending fuel output rest
    else
      match rest with
      | [] => .error ending
      | byte :: rest =>
        unpackRuns ending fuel (output ++ Array.replicate (257 - code.toNat) byte) rest

/-- The greatest number of bytes that are unpacked for a block. -/
def unpackLimit (block : Block) : Nat := 8 * block.width * block.height

/-- Reads the data of a block. -/
def readBlock (compression : Nat) (block : Block) (start count : Nat) : Reading (Array UInt8) := do
  let limited (output : Array UInt8) (fault : Option DecodeFault) : Reading (Array UInt8) :=
    if unpackLimit block ≤ output.size then return output.take (unpackLimit block)
    else
      match fault with
      | some fault => throw fault
      | none => return output
  match compression with
  | 0 | 1 => return (← bytesAt start count).toArray
  | 5 =>
    let (packed, _) ← sectionAt start count
    let (output, fault) := Lzw.unpack packed
    limited output fault
  | 8 | 32946 =>
    let (packed, _) ← sectionAt start count
    match Inflate.unpackChecked packed .truncated with
    | .error fault => throw fault
    | .ok unpacked => limited unpacked.output unpacked.fault
  | 32773 =>
    let (packed, ending) ← sectionAt start count
    match unpackRuns ending (packed.length + 1) #[] packed with
    | .error fault => throw fault
    | .ok output => return output
  | other => unsupported ("compression value " ++ toString other)

/-- Reads a block and undoes what was done to it. -/
def readPixels (layout : Layout) (compression predictor : Nat) (block : Block) (start count : Nat) :
    Reading Block := do
  let data ← readBlock compression block start count
  let block := { block with data }
  let block ←
    if predictor != 2 then pure block
    else if layout.depth = 1 then unsupported "horizontal predictor with 1 BitsPerSample"
    else
      match layout.undo? block with
      | some data => pure { block with data }
      | none => malformed "not enough pixel data"
  match layout.check block with
  | .error fault => throw fault
  | .ok () => return block

/-- How many parts of a size cover a length. -/
def partsOf (length size : Nat) : Nat := if size = 0 then 0 else (length + size - 1) / size

/-- The least side of a tile. -/
def tileLimit : Nat := 8

/-- The colours of a palette: all reds, then all greens, then all blues. -/
def paletteColors (numbers : List Nat) : Array Color :=
  let count := numbers.length / 3
  let byte (i : Nat) : UInt8 := (numbers[i]?.getD 0 / 256).toUInt8
  ((List.range count).map fun i =>
    ({ red := byte i, green := byte (i + count), blue := byte (i + 2 * count), alpha := 255 } :
      Color)).toArray

/-- Reads all blocks, column by column. Tiles are all of one size; the last strip may be lower. -/
def readBlocks (fields : Fields) (layout : Layout) : Reading (List Block) := do
  let isTiled := fields.first .tileWidth != 0
  let stripRows := fields.first .stripRows
  let width := if isTiled then fields.first .tileWidth else layout.width
  let height :=
    if isTiled then fields.first .tileHeight else if stripRows = 0 then layout.height else stripRows
  if isTiled && (width < tileLimit || height < tileLimit) then malformed "tile size is too small"
  let across := if isTiled then partsOf layout.width width else if layout.width = 0 then 0 else 1
  let down := partsOf layout.height height
  let offsets := (fields.all (if isTiled then .tileOffsets else .stripOffsets)).toArray
  let sizes := (fields.all (if isTiled then .tileSizes else .stripSizes)).toArray
  if offsets.size < across * down || sizes.size < across * down then malformed "inconsistent header"
  let columns ← (List.range across).mapM fun i =>
    (List.range down).mapM fun j => do
      let block : Block := {
        x := i * width
        y := j * height
        width
        height := if isTiled then height else min height (layout.height - j * height) }
      let place := j * across + i
      readPixels layout (fields.first .compression) (fields.first .predictor) block
        (offsets[place]?.getD 0) (sizes[place]?.getD 0)
  return columns.flatten

/-- Reads a whole file. -/
def readPicture : Reading Picture := do
  let fields ← readDirectory
  let paint ← readPaint fields
  let layout : Layout := {
    width := fields.first .width
    height := fields.first .height
    paint
    depth := depth fields
    samples := (sampleBits fields).length
    isHighFirst := (← get).isHighFirst
    palette := paletteColors (fields.all .palette) }
  let blocks ← readBlocks fields layout
  return {
    width := layout.width
    height := layout.height
    isStraight := paint = .colorStraightAlpha && layout.depth != 16
    pixel := fun x y =>
      match blocks.find? fun block =>
          block.x ≤ x && x < block.x + block.width && block.y ≤ y && y < block.y + block.height with
      | some block => layout.color block (y - block.y) (x - block.x)
      | none => {} }

/-- The picture in a file. -/
def decode (bytes : Bytes) : Except DecodeFault Picture :=
  match readPicture.run { bytes } with
  | .ok (picture, _) => .ok picture
  | .error fault => .error fault

end Mosaic.Tiff
