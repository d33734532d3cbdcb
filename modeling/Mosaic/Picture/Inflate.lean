import Mosaic.Error
import Mosaic.Picture.Checksum
import Mosaic.Picture.Word

/-! Compressed data: blocks of literal bytes and of references to bytes before them, written in codes of
different lengths. Bits are taken from the lowest of each byte on. What was unpacked before a fault is
kept. -/
namespace Mosaic.Inflate

/-- The state of unpacking: the bytes not yet taken, what a read beyond them gives, the bits taken but not
used, the number of bytes taken, and what has been unpacked. -/
structure Inflation where
  input : Bytes
  ending : DecodeFault := .truncated
  bits : Nat := 0
  count : Nat := 0
  taken : Nat := 0
  output : Array UInt8 := #[]
  deriving Inhabited

/-- A step of unpacking, which may fail and then leaves what it has done. -/
abbrev Inflating (α : Type) := ExceptT DecodeFault (StateM Inflation) α

/-- The input is not as it should be. -/
def corrupt {α : Type} : Inflating α := do throw (.packing (.corrupt (← get).taken))

/-- Takes one byte. -/
def nextByte : Inflating UInt8 := do
  let state ← get
  match state.input with
  | [] => throw state.ending
  | byte :: input =>
    set { state with input, taken := state.taken + 1 }
    return byte

/-- Takes bytes until a number of bits is there. No more bytes than bits are needed. -/
def ensure (count : Nat) : Inflating Unit :=
  loop count
where
  /-- Takes bytes as long as bits are missing. -/
  loop : Nat → Inflating Unit
    | 0 => return
    | fuel + 1 => do
      let state ← get
      if state.count < count then
        let byte ← nextByte
        modify fun later =>
          { later with
            bits := state.bits + byte.toNat * Nat.pow 2 state.count
            count := state.count + 8 }
        loop fuel

/-- Uses a number of bits as a number. -/
def takeBits (count : Nat) : Inflating Nat := do
  ensure count
  let state ← get
  set { state with bits := state.bits / Nat.pow 2 count, count := state.count - count }
  return state.bits % Nat.pow 2 count

/-- Codes of different lengths. Those of one length are consecutive numbers, and so are the symbols in
`symbols`, which are sorted by the lengths of their codes. `counts` has the number of codes of each
length. At least `least` bits are taken for a symbol. -/
structure Code where
  counts : Array Nat
  symbols : Array Nat
  least : Nat
  deriving Inhabited

namespace Code

/-- The greatest length of a code. -/
def lengthLimit : Nat := 15

/-- Whether the numbers of codes of each length use up all sequences of bits. -/
def isComplete (counts : Array Nat) (longest : Nat) : Bool :=
  let used := (List.range (longest + 1)).foldl (fun used n => 2 * used + counts[n]?.getD 0) 0
  used == Nat.pow 2 longest || (used == 1 && longest == 1)

/-- The code in which each symbol has the given length, none where it is zero. No code at all is taken for
complete; it fails when it is used. -/
def ofLengths? (lengths : List Nat) : Option Code :=
  let count (n : Nat) : Nat := if n = 0 then 0 else lengths.countP (· == n)
  let counts := ((List.range (lengthLimit + 1)).map count).toArray
  let used := lengths.filter (· != 0)
  let indexed := lengths.zip (List.range lengths.length)
  let symbols := (List.range lengthLimit).flatMap fun n =>
    (indexed.filter (·.1 == n + 1)).map (·.2)
  let longest := used.foldl max 0
  if used = [] || isComplete counts longest then
    some { counts, symbols := symbols.toArray, least := used.min?.getD 0 }
  else none

/-- The length of the code at the front of the bits and its symbol. Bits that are not there count as
zeros. `first` is the first code of the length `depth` and `skipped` the number of shorter ones. -/
def lookupFrom (code : Code) : Nat → Nat → Nat → Nat → Nat → Nat → Option (Nat × Nat)
  | 0, _, _, _, _, _ => none
  | fuel + 1, depth, bits, read, first, skipped =>
    let read := 2 * read + bits % 2
    let first := 2 * first
    let count := code.counts[depth]?.getD 0
    if first ≤ read && read < first + count then
      (code.symbols[skipped + (read - first)]?).map (depth, ·)
    else lookupFrom code fuel (depth + 1) (bits / 2) read (first + count) (skipped + count)

/-- The length of the code at the front of the bits and its symbol. -/
def lookup (code : Code) (bits : Nat) : Option (Nat × Nat) :=
  lookupFrom code lengthLimit 1 bits 0 0 0

end Code

/-- Reads a symbol. As long as the bits at hand do not decide it, as many are taken as the code would have
if zeros followed. -/
def symbol (code : Code) : Inflating Nat :=
  loop (Code.lengthLimit + 1) code.least
where
  /-- Takes bits until they decide. -/
  loop : Nat → Nat → Inflating Nat
    | 0, _ => corrupt
    | fuel + 1, needed => do
      ensure needed
      let state ← get
      match code.lookup state.bits with
      | none => corrupt
      | some (length, found) =>
        if length ≤ state.count then
          set { state with bits := state.bits / Nat.pow 2 length, count := state.count - length }
          return found
        else loop fuel length

/-- The order in which the lengths of the codes for lengths are written. -/
def lengthOrder : List Nat := [16, 17, 18, 0, 8, 7, 9, 6, 10, 5, 11, 4, 12, 3, 13, 2, 14, 1, 15]

/-- The end of a block among the symbols. -/
def endOfBlock : Nat := 256

/-- The number of symbols for literals and lengths. -/
def literalLimit : Nat := 286

/-- The number of symbols for distances. -/
def distanceLimit : Nat := 30

/-- The code of blocks that bring none of their own. -/
def standardLengths : List Nat :=
  List.replicate 144 8 ++ List.replicate 112 9 ++ List.replicate 24 7 ++ List.replicate 8 8

/-- Reads lengths of codes up to a number of them. Three symbols stand for repeated lengths: of the last
one, or of zero. The lengths before are in reverse order. -/
def codeLengths (code : Code) (total : Nat) : Nat → List Nat → Inflating (List Nat)
  | 0, before => return before.reverse
  | fuel + 1, before => do
    if total ≤ before.length then return before.reverse
    let found ← symbol code
    if found < 16 then codeLengths code total fuel (found :: before)
    else
      let repeated ← match found, before with
        | 16, last :: _ => pure last
        | 16, [] => corrupt
        | _, _ => pure 0
      let times ← match found with
        | 16 => do pure (3 + (← takeBits 2))
        | 17 => do pure (3 + (← takeBits 3))
        | _ => do pure (11 + (← takeBits 7))
      if total < before.length + times then corrupt
      codeLengths code total fuel (List.replicate times repeated ++ before)

/-- Reads the codes of a block: for literals and lengths, and for distances. -/
def readCodes : Inflating (Code × Code) := do
  ensure 14
  let state ← get
  let literals := state.bits % 32 + 257
  let distances := state.bits / 32 % 32 + 1
  if literalLimit < literals || distanceLimit < distances then corrupt
  let _ ← takeBits 10
  let count := 4 + (← takeBits 4)
  let written ← (List.range count).mapM fun _ => takeBits 3
  let lengths := (List.range 19).map fun i => ((lengthOrder.zip written).lookup i).getD 0
  match Code.ofLengths? lengths with
  | none => corrupt
  | some code =>
    let all ← codeLengths code (literals + distances) (literals + distances) []
    match Code.ofLengths? (all.take literals), Code.ofLengths? (all.drop literals) with
    | some literal, some distance =>
      let least := max literal.least (all[endOfBlock]?.getD 0)
      return ({ literal with least }, distance)
    | _, _ => corrupt

/-- The base of a length, and the number of bits to add to it. -/
def lengthBase (found : Nat) : Nat × Nat :=
  if found < 265 then (found - 254, 0)
  else if found < 269 then (found * 2 - (265 * 2 - 11), 1)
  else if found < 273 then (found * 4 - (269 * 4 - 19), 2)
  else if found < 277 then (found * 8 - (273 * 8 - 35), 3)
  else if found < 281 then (found * 16 - (277 * 16 - 67), 4)
  else if found < 285 then (found * 32 - (281 * 32 - 131), 5)
  else (258, 0)

/-- The number of five bits with the bits in the other order. -/
def reversed (bits : Nat) : Nat :=
  (List.range 5).foldl (fun sum i => 2 * sum + bits / Nat.pow 2 i % 2) 0

/-- Reads a distance. -/
def distance (code : Option Code) : Inflating Nat := do
  let found ← match code with
    | some code => symbol code
    | none => pure (reversed (← takeBits 5))
  if found < 4 then return found + 1
  else if found < distanceLimit then
    let extra := (found - 2) / 2
    let low ← takeBits extra
    return Nat.pow 2 (extra + 1) + 1 + (found % 2) * Nat.pow 2 extra + low
  else corrupt

/-- Appends bytes from a distance before the end, one by one, so that they may repeat. -/
def copyBack (distance : Nat) : Nat → Array UInt8 → Array UInt8
  | 0, output => output
  | count + 1, output => copyBack distance count (output.push (output[output.size - distance]?.getD 0))

/-- How far back references reach. -/
def window : Nat := 32768

/-- Unpacks a block of coded data. -/
def codedBlock (literal : Code) (distances : Option Code) : Nat → Inflating Unit
  | 0 => corrupt
  | fuel + 1 => do
    let found ← symbol literal
    if found < endOfBlock then
      modify fun state => { state with output := state.output.push found.toUInt8 }
      codedBlock literal distances fuel
    else if found = endOfBlock then return
    else if found < literalLimit then
      let (base, extra) := lengthBase found
      let length := base + (← takeBits extra)
      let back ← distance distances
      if min window (← get).output.size < back then corrupt
      modify fun state => { state with output := copyBack back length state.output }
      codedBlock literal distances fuel
    else corrupt

/-- Unpacks a block of plain data, which begins at a whole byte with its size and the complement of the
size. -/
def plainBlock : Inflating Unit := do
  modify fun state => { state with bits := 0, count := 0 }
  let low ← nextByte
  let high ← nextByte
  let lowComplement ← nextByte
  let highComplement ← nextByte
  if low + lowComplement != 255 || high + highComplement != 255 then corrupt
  let size := low.toNat + 256 * high.toNat
  let state ← get
  let data := state.input.take size
  set { state with
    input := state.input.drop size
    taken := state.taken + data.length
    output := state.output ++ data.toArray }
  if data.length < size then throw state.ending

/-- Unpacks blocks up to the last one. -/
def blocks : Nat → Inflating Unit
  | 0 => corrupt
  | fuel + 1 => do
    let isLast := (← takeBits 1) = 1
    let state ← get
    match ← takeBits 2 with
    | 0 => plainBlock
    | 1 =>
      match Code.ofLengths? standardLengths with
      | some code => codedBlock code none (8 * state.input.length + 64)
      | none => corrupt
    | 2 => do
      let (literal, distances) ← readCodes
      codedBlock literal (some distances) (8 * state.input.length + 64)
    | _ => corrupt
    if isLast then return else blocks fuel

/-- What comes of unpacking: the bytes, the fault if it did not go well, and the number of bytes that were
taken up. -/
structure Unpacked where
  output : Array UInt8
  fault : Option DecodeFault
  taken : Nat
  deriving Inhabited

/-- Unpacks compressed data. -/
def unpack (input : Bytes) (ending : DecodeFault) : Unpacked :=
  let (result, state) := (blocks (8 * input.length + 1)).run.run { input, ending }
  let fault := match result with
    | .ok () => none
    | .error fault => some fault
  { output := state.output, fault, taken := state.taken }

/-- Unpacks compressed data with a header of two bytes in front and a checksum behind. The header may name
a dictionary by its checksum; only the empty one is known. -/
def unpackChecked (input : Bytes) (ending : DecodeFault) : Except DecodeFault Unpacked :=
  match input with
  | method :: flags :: rest =>
    let isSound := method % 16 == 8 && method / 16 ≤ 7 && (256 * method.toNat + flags.toNat) % 31 == 0
    let hasDictionary := flags / 32 % 2 == 1
    if !isSound then .error (.packing .header)
    else if hasDictionary && rest.length < 4 then .error ending
    else if hasDictionary && Bytes.highFirst (rest.take 4) != Checksum.doubleSum #[] then
      .error (.packing .dictionary)
    else
      let lead := if hasDictionary then 6 else 2
      let unpacked := unpack (input.drop lead) ending
      let taken := lead + unpacked.taken
      match unpacked.fault with
      | some _ => .ok { unpacked with taken }
      | none =>
        let sum := input.slice taken 4
        let fault :=
          if sum.length < 4 then some ending
          else if sum.highFirst != Checksum.doubleSum unpacked.output then some (.packing .checksum)
          else none
        .ok { unpacked with fault, taken := taken + 4 }
  | _ => .error ending

end Mosaic.Inflate
