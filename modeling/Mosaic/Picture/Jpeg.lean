import Mosaic.Error
import Mosaic.Picture
import Mosaic.Picture.Word

/-! JPEG: segments that begin with a marker. One of them gives the size, others give tables, and scans give
the coefficients of blocks of eight by eight pixels. Files are read to the last bit, so that broken ones
are told from whole ones, but of the colours nothing is kept. -/
namespace Mosaic.Jpeg

/-- One of the components of a picture: its name and how many blocks of it are in a unit. -/
structure Component where
  name : UInt8
  across : Nat
  down : Nat
  deriving DecidableEq, Repr, Inhabited

/-- Codes of different lengths: the numbers of codes of each length from one on, and their values. -/
structure Table where
  counts : List Nat
  values : Array UInt8
  deriving Inhabited

/-- What has been read of a file. `bits` holds `count` bits that have been taken but not used. The
coefficients of a picture that comes in several passes are kept as far as they are not zero, by
component, block and position. `run` is the number of blocks that are known to have ended. -/
structure File where
  rest : Bytes
  width : Nat := 0
  height : Nat := 0
  components : List Component := []
  isBaseline : Bool := false
  isProgressive : Bool := false
  levelTables : List (Nat × Table) := []
  waveTables : List (Nat × Table) := []
  restartInterval : Nat := 0
  hasTransform : Bool := false
  hasScan : Bool := false
  bits : Nat := 0
  count : Nat := 0
  run : Nat := 0
  coefficients : List ((Nat × Nat) × List Nat) := []
  deriving Inhabited

/-- Reading, which may fail. -/
abbrev Reading (α : Type) := StateT File (Except DecodeFault) α

/-- A complaint about the file. -/
def malformed {α : Type} (complaint : String) : Reading α := throw (.malformed .jpeg complaint)

/-- Something that is not read. -/
def unsupported {α : Type} (feature : String) : Reading α := throw (.unsupported .jpeg feature)

/-- The next byte. -/
def nextByte : Reading UInt8 := do
  let file ← get
  match file.rest with
  | [] => throw .truncated
  | byte :: rest =>
    set { file with rest }
    return byte

/-- A number of bytes. -/
def nextBytes (count : Nat) : Reading Bytes := do
  let file ← get
  match file.rest.split? count with
  | none => throw .truncated
  | some (bytes, rest) =>
    set { file with rest }
    return bytes

/-- Skips bytes. -/
def skip (count : Nat) : Reading Unit := do
  let _ ← nextBytes count

/-- The next byte of a scan. A marker is not taken; a byte that looks like one is followed by zero. -/
def scanByte : Reading UInt8 := do
  let file ← get
  match file.rest with
  | 0xFF :: 0 :: rest =>
    set { file with rest }
    return 0xFF
  | 0xFF :: _ :: _ => malformed "missing 0xff00 sequence"
  | 0xFF :: [] => malformed "short Huffman data"
  | byte :: rest =>
    set { file with rest }
    return byte
  | [] => malformed "short Huffman data"

/-- The next bit of a scan. -/
def bit : Reading Nat := do
  if (← get).count = 0 then
    let byte ← scanByte
    modify fun file => { file with bits := byte.toNat, count := 8 }
  let file ← get
  set { file with bits := file.bits % Nat.pow 2 (file.count - 1), count := file.count - 1 }
  return file.bits / Nat.pow 2 (file.count - 1)

/-- The next bits of a scan as a number. -/
def bits (count : Nat) : Reading Nat :=
  (List.range count).foldlM (fun sum _ => do return 2 * sum + (← bit)) 0

/-- Reads a value by the codes of a table. `first` is the first code of the next length, `skipped` the
number of values with shorter codes. -/
def decodeFrom (table : Table) : List Nat → Nat → Nat → Nat → Reading Nat
  | [], _, _, _ => malformed "bad Huffman code"
  | count :: more, code, first, skipped => do
    let code := 2 * code + (← bit)
    let first := 2 * first
    if code < first + count then
      return (table.values[skipped + code - first]?.getD 0).toNat
    else decodeFrom table more code (first + count) (skipped + count)

/-- Reads a value by the codes of a table. -/
def decodeValue (table : Option Table) : Reading Nat :=
  match table with
  | none => malformed "uninitialized Huffman table"
  | some table => decodeFrom table table.counts 0 0 0

/-- The size of a block. -/
def blockSize : Nat := 64

/-- Reads tables of quantities, of which only the size matters. -/
def readQuantities : Nat → Nat → Reading Unit
  | 0, _ => return
  | _, 0 => return
  | fuel + 1, length + 1 => do
    let kind := (← nextByte).toNat
    if 3 < kind % 16 then malformed "bad Tq value"
    if 1 < kind / 16 then malformed "bad Pq value"
    let size := if kind / 16 = 0 then blockSize else 2 * blockSize
    if length < size then
      if length = 0 then return else malformed "DQT has wrong length"
    skip size
    readQuantities fuel (length - size)

/-- Reads tables of codes. -/
def readTables : Nat → Nat → Reading Unit
  | 0, _ => return
  | _, 0 => return
  | fuel + 1, length => do
    if length < 17 then malformed "DHT has wrong length"
    let lead ← nextBytes 17
    let kind := (lead.headD 0).toNat
    if 1 < kind / 16 then malformed "bad Tc value"
    if 3 < kind % 16 || ((← get).isBaseline && 1 < kind % 16) then malformed "bad Th value"
    let counts := (lead.drop 1).map UInt8.toNat
    let total := counts.sum
    if total = 0 then malformed "Huffman table has zero length"
    if 256 < total then malformed "Huffman table has excessive length"
    if length < total + 17 then malformed "DHT has wrong length"
    let table : Table := { counts, values := (← nextBytes total).toArray }
    modify fun file =>
      if kind / 16 = 0 then { file with levelTables := (kind % 16, table) :: file.levelTables }
      else { file with waveTables := (kind % 16, table) :: file.waveTables }
    readTables fuel (length - total - 17)

/-- Whether a component's blocks in a unit go together with those of the components before it. -/
def ratioFits (total : Nat) (before : List Component) (across down : Nat) : Bool :=
  match total, before with
  | 3, [] => down != 4
  | 3, [luma] => luma.across % across == 0 && luma.down % down == 0
  | 3, [_, blue] => blue.across == across && blue.down == down
  | 4, [] => across == down && across ≤ 2
  | 4, [first, _, _] => first.across == across && first.down == down
  | 4, _ => across == 1 && down == 1
  | _, _ => true

/-- Reads components from three bytes each. -/
def readComponents (total : Nat) : List Component → Nat → Bytes → Reading (List Component)
  | before, 0, _ => return before
  | before, count + 1, bytes => do
    let name := bytes.headD 0
    let ratio := (bytes[1]?.getD 0).toNat
    let across := ratio / 16
    let down := ratio % 16
    if before.any (·.name == name) then malformed "repeated component identifier"
    if 3 < (bytes[2]?.getD 0).toNat then malformed "bad Tq value"
    if across < 1 || 4 < across || down < 1 || 4 < down then malformed "luma/chroma subsampling ratio"
    if across = 3 || down = 3 || !ratioFits total before across down then
      unsupported "luma/chroma subsampling ratio"
    let component : Component :=
      if total = 1 then { name, across := 1, down := 1 } else { name, across, down }
    readComponents total (before ++ [component]) count (bytes.drop 3)

/-- Reads the size and the components. -/
def readFrame (length : Nat) : Reading Unit := do
  if !(← get).components.isEmpty then malformed "multiple SOF markers"
  let total := (length - 6) / 3
  if !([9, 15, 18].contains length) then unsupported "number of components"
  let bytes ← nextBytes length
  let byte (i : Nat) : Nat := (bytes[i]?.getD 0).toNat
  if byte 0 != 8 then unsupported "precision"
  if byte 5 != total then malformed "SOF has wrong length"
  let components ← readComponents total [] total (bytes.drop 6)
  modify fun file =>
    { file with height := 256 * byte 1 + byte 2, width := 256 * byte 3 + byte 4, components }

/-- A component in a scan: its place among the components, and the numbers of its tables. -/
structure Selected where
  place : Nat
  component : Component
  level : Nat
  wave : Nat
  deriving Inhabited

/-- Reads the components of a scan from two bytes each. -/
def readSelected : List Selected → Nat → Bytes → Reading (List Selected)
  | before, 0, _ => return before
  | before, count + 1, bytes => do
    let file ← get
    let name := bytes.headD 0
    let tables := (bytes[1]?.getD 0).toNat
    let numbered := file.components.zip (List.range file.components.length)
    match numbered.find? (·.1.name == name) with
    | none => malformed "unknown component selector"
    | some (component, place) =>
      if before.any (·.place == place) then malformed "repeated component selector"
      let limit := if file.isBaseline then 1 else 3
      if limit < tables / 16 then malformed "bad Td value"
      if limit < tables % 16 then malformed "bad Ta value"
      let selected := { place, component, level := tables / 16, wave := tables % 16 }
      readSelected (before ++ [selected]) count (bytes.drop 2)

/-- Which positions of the blocks a scan gives, and which of their bits. -/
structure Span where
  first : Nat := 0
  last : Nat := 63
  high : Nat := 0
  low : Nat := 0
  deriving Inhabited

/-- Reads the number of blocks that end with this one, itself included. -/
def readRun (exponent : Nat) : Reading Nat := do return Nat.pow 2 exponent + (← bits exponent)

/-- Reads coefficients of a block from a position on. The positions that are not zero are added to those
known. -/
def readWaves (table : Option Table) (last : Nat) : Nat → Nat → List Nat → Reading (List Nat)
  | 0, _, known => return known
  | fuel + 1, position, known => do
    if last < position then return known
    let value ← decodeValue table
    let zeros := value / 16
    let size := value % 16
    if size != 0 then
      let position := position + zeros
      if last < position then return known
      let _ ← bits size
      readWaves table last fuel (position + 1) (position :: known)
    else if zeros = 15 then readWaves table last fuel (position + 16) known
    else
      let run ← readRun zeros
      modify fun file => { file with run := run - 1 }
      return known

/-- Passes over zeros of a block, and reads a bit for each coefficient that is not zero on the way. Gives
the position after a number of zeros, or the one after the last if there is no such number. -/
def refineKnown (known : List Nat) (last : Nat) : Nat → Nat → Option Nat → Reading Nat
  | 0, position, _ => return position
  | fuel + 1, position, zeros => do
    if last < position then return position
    if known.contains position then
      let _ ← bit
      refineKnown known last fuel (position + 1) zeros
    else if zeros = some 0 then return position
    else refineKnown known last fuel (position + 1) (zeros.map (· - 1))

/-- Reads one more bit of the coefficients of a block from a position on. Gives the position that was
reached and the positions that are not zero. -/
def refineWaves (table : Option Table) (last : Nat) : Nat → Nat → List Nat → Reading (Nat × List Nat)
  | 0, position, known => return (position, known)
  | fuel + 1, position, known => do
    if last < position then return (position, known)
    let value ← decodeValue table
    let zeros := value / 16
    let size := value % 16
    if size = 0 && zeros != 15 then
      let run ← readRun zeros
      modify fun file => { file with run }
      return (position, known)
    if 1 < size then malformed "unexpected Huffman code"
    if size = 1 then
      let _ ← bit
    let position ← refineKnown known last (blockSize + 1) position (some zeros)
    if last < position then malformed "too many coefficients"
    refineWaves table last fuel (position + 1) (if size = 1 then position :: known else known)

/-- Reads one more bit of a block's coefficients. -/
def refineBlock (span : Span) (table : Option Table) (known : List Nat) : Reading (List Nat) := do
  if span.first = 0 then
    let value ← bit
    return if value = 1 then 0 :: known else known
  let (position, known) ←
    if (← get).run = 0 then refineWaves table span.last (blockSize + 1) span.first known
    else pure (span.first, known)
  if 0 < (← get).run then
    modify fun file => { file with run := file.run - 1 }
    let _ ← refineKnown known span.last (blockSize + 1) position none
  return known

/-- Reads the first bits of a block's coefficients. -/
def readBlock (span : Span) (level wave : Option Table) (known : List Nat) : Reading (List Nat) := do
  let first ←
    if span.first = 0 then do
      let size ← decodeValue level
      if 16 < size then unsupported "excessive DC component"
      let _ ← bits size
      pure 1
    else pure span.first
  let run := (← get).run
  if first ≤ span.last && 0 < run then
    modify fun file => { file with run := run - 1 }
    return known
  else readWaves wave span.last (blockSize + 1) first known

/-- Reads the block of a component at a column and row of blocks. -/
def readBlockAt (span : Span) (selected : Selected) (column row : Nat) : Reading Unit := do
  let file ← get
  let key := (selected.place, 65536 * row + column)
  let known := if file.isProgressive then (file.coefficients.lookup key).getD [] else []
  let level := file.levelTables.lookup selected.level
  let wave := file.waveTables.lookup selected.wave
  let known ← if span.high != 0 then refineBlock span wave known else readBlock span level wave known
  if file.isProgressive then
    modify fun file =>
      { file with coefficients := (key, known) :: file.coefficients.filter (·.1 != key) }

/-- The first of the markers between restart intervals. -/
def restartMarker : Nat := 0xD0

/-- Looks for the expected restart marker. Other data are skipped, but no other marker is. -/
def findRestart (expected : Nat) : Nat → UInt8 → UInt8 → Reading Unit
  | 0, _, _ => throw .truncated
  | fuel + 1, first, second => do
    if first = 0xFF then
      let marker := second.toNat
      if marker = expected then return
      else if marker = 0xFF then findRestart expected fuel 0xFF (← nextByte)
      else if marker != 0 then malformed "bad RST marker"
      else
        let next ← nextByte
        findRestart expected fuel next (← nextByte)
    else if second = 0xFF then findRestart expected fuel 0xFF (← nextByte)
    else
      let next ← nextByte
      findRestart expected fuel next (← nextByte)

/-- Ends a restart interval: a marker, then everything begins anew. -/
def restart (expected : Nat) : Reading Unit := do
  let first ← nextByte
  let second ← nextByte
  if first != 0xFF || second.toNat != expected then
    findRestart expected ((← get).rest.length + 1) first second
  modify fun file => { file with bits := 0, count := 0, run := 0 }

/-- Reads the units of a scan from the one of the given number on. A scan of one component leaves out
blocks that lie wholly outside the picture. -/
def readUnits (span : Span) (selected : List Selected) (across total : Nat) : Nat → Nat → Reading Unit
  | 0, _ => return
  | fuel + 1, unit => do
    if total ≤ unit then return
    let file ← get
    selected.forM fun part => do
      let h := part.component.across
      let v := part.component.down
      (List.range (h * v)).forM fun j => do
        if selected.length != 1 then
          readBlockAt span part (h * (unit % across) + j % h) (v * (unit / across) + j / h)
        else
          let block := unit * (h * v) + j
          let column := block % (across * h)
          let row := block / (across * h)
          if 8 * column < file.width && 8 * row < file.height then readBlockAt span part column row
    let next := unit + 1
    if 0 < file.restartInterval && next % file.restartInterval = 0 && next < total then
      restart (restartMarker + (next / file.restartInterval - 1) % 8)
    readUnits span selected across total fuel next

/-- Reads a scan. -/
def readScan (length : Nat) : Reading Unit := do
  let file ← get
  let total := file.components.length
  if total = 0 then malformed "missing SOF marker"
  if length < 6 || 4 + 2 * total < length || length % 2 != 0 then malformed "SOS has wrong length"
  let bytes ← nextBytes length
  let byte (i : Nat) : Nat := (bytes[i]?.getD 0).toNat
  let count := byte 0
  if length != 4 + 2 * count then malformed "SOS length inconsistent with number of components"
  let selected ← readSelected [] count (bytes.drop 1)
  let samples :=
    selected.foldl (fun sum part => sum + part.component.across * part.component.down) 0
  if 1 < total && 10 < samples then malformed "total sampling factors too large"
  let span : Span :=
    if file.isProgressive then {
      first := byte (1 + 2 * count)
      last := byte (2 + 2 * count)
      high := byte (3 + 2 * count) / 16
      low := byte (3 + 2 * count) % 16 }
    else {}
  if (span.first = 0 && span.last != 0 && file.isProgressive) || span.last < span.first ||
      blockSize ≤ span.last then
    malformed "bad spectral selection bounds"
  if span.first != 0 && count != 1 then
    malformed "progressive AC coefficients for more than one component"
  if span.high != 0 && span.high != span.low + 1 then malformed "bad successive approximation values"
  match file.components with
  | [] => return
  | first :: _ =>
    let across := (file.width + 8 * first.across - 1) / (8 * first.across)
    let down := (file.height + 8 * first.down - 1) / (8 * first.down)
    modify fun file => { file with hasScan := true, bits := 0, count := 0 }
    readUnits span selected across (across * down) (across * down + 1) 0
    modify fun file => { file with bits := 0, count := 0 }

/-- Reads the segment of a marker. -/
def readSegment (marker length : Nat) : Reading Unit := do
  match marker with
  | 0xC0 | 0xC1 | 0xC2 =>
    modify fun file => { file with isBaseline := marker = 0xC0, isProgressive := marker = 0xC2 }
    readFrame length
  | 0xC4 => readTables (length + 1) length
  | 0xDB => readQuantities (length + 1) length
  | 0xDA => readScan length
  | 0xDD =>
    if length != 2 then malformed "DRI has wrong length"
    let bytes ← nextBytes 2
    modify fun file => { file with restartInterval := bytes.highFirst }
  | 0xEE =>
    let bytes ← nextBytes length
    if 12 ≤ length && (Bytes.ofString "Adobe").isPrefixOf bytes then
      modify fun file => { file with hasTransform := true }
  | _ =>
    if (0xE0 ≤ marker && marker ≤ 0xEF) || marker = 0xFE then skip length
    else if marker < 0xC0 then malformed "unknown marker"
    else unsupported "unknown marker"

/-- The next marker, after filling bytes. Data before it are skipped. -/
def nextMarker : Nat → UInt8 → UInt8 → Reading Nat
  | 0, _, _ => throw .truncated
  | fuel + 1, first, second => do
    if first != 0xFF then nextMarker fuel second (← nextByte)
    else if second = 0 then
      let next ← nextByte
      nextMarker fuel next (← nextByte)
    else if second = 0xFF then nextMarker fuel 0xFF (← nextByte)
    else return second.toNat

/-- The marker that ends a file. -/
def endMarker : Nat := 0xD9

/-- Reads segments up to the end. -/
def readSegments : Nat → Reading Unit
  | 0 => throw .truncated
  | fuel + 1 => do
    let first ← nextByte
    let second ← nextByte
    let marker ← nextMarker ((← get).rest.length + 1) first second
    if marker = endMarker then return
    if restartMarker ≤ marker && marker < restartMarker + 8 then readSegments fuel
    else
      let length := (← nextBytes 2).highFirst
      if length < 2 then malformed "short segment length"
      readSegment marker (length - 2)
      readSegments fuel

/-- Reads a whole file, from behind the marker with which it begins. -/
def readPicture : Reading Picture := do
  readSegments ((← get).rest.length + 1)
  let file ← get
  if !file.hasScan then malformed "missing SOS marker"
  if file.components.length = 4 && !file.hasTransform then
    unsupported "unknown color model: 4-component JPEG doesn't have Adobe APP14 metadata"
  let isEmpty := file.width = 0 || file.height = 0
  return {
    width := if isEmpty then 0 else file.width
    height := if isEmpty then 0 else file.height
    pixel := fun _ _ => { alpha := 255 } }

/-- The size of the marker with which a file begins. -/
def signatureSize : Nat := 2

/-- The picture in a file with the right signature; its colours are not read. -/
def decode (bytes : Bytes) : Except DecodeFault Picture :=
  match readPicture.run { rest := bytes.drop signatureSize } with
  | .ok (picture, _) => .ok picture
  | .error fault => .error fault

end Mosaic.Jpeg
