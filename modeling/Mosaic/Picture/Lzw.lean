import Mosaic.Error

/-! Data packed with a table of sequences that grows as they are read: a code stands for a byte, or for
an earlier sequence and one byte more. Codes grow from nine bits to twelve, the highest bit first. -/
namespace Mosaic.Lzw

/-- The code that empties the table. -/
def clearCode : Nat := 256

/-- The code that ends the data. -/
def endCode : Nat := 257

/-- The greatest number of bits of a code. -/
def widthLimit : Nat := 12

/-- The state of unpacking: the width of codes, the greatest code with a meaning, the last code if it
begins a new sequence, the sequences (a code and the byte after it), and what has been unpacked. -/
structure Unpacking where
  width : Nat := 9
  highest : Nat := endCode
  last : Option Nat := none
  table : Array (Nat × UInt8) := Array.replicate (Nat.pow 2 widthLimit) (0, 0)
  output : Array UInt8 := #[]
  deriving Inhabited

namespace Unpacking

/-- The bytes of a code's sequence. Every code is greater than the one it extends. -/
def sequenceFrom (state : Unpacking) : Nat → Nat → Bytes → Bytes
  | 0, code, after => code.toUInt8 :: after
  | fuel + 1, code, after =>
    if code < clearCode then code.toUInt8 :: after
    else
      let (before, byte) := state.table[code]?.getD (0, 0)
      sequenceFrom state fuel before (byte :: after)

/-- The bytes of a code's sequence. -/
def sequence (state : Unpacking) (code : Nat) : Bytes := state.sequenceFrom code code []

/-- Adds the bytes of a code to the output, and the sequence of the last code and their first byte to the
table. Codes become wider one code before they have to. -/
def emit (state : Unpacking) (code : Nat) (bytes : Bytes) : Unpacking :=
  let table := match state.last with
    | some last => state.table.setIfInBounds state.highest (last, bytes.headD 0)
    | none => state.table
  let state := { state with table, output := state.output ++ bytes.toArray, last := some code }
  if state.highest + 2 < Nat.pow 2 state.width then { state with highest := state.highest + 1 }
  else if state.width = widthLimit then { state with last := none }
  else { state with highest := state.highest + 1, width := state.width + 1 }

/-- Takes in a code; none where it has no meaning. -/
def take? (state : Unpacking) (code : Nat) : Option Unpacking :=
  if code < clearCode then some (state.emit code [code.toUInt8])
  else if code = clearCode then some { state with width := 9, highest := endCode, last := none }
  else if code = state.highest then
    match state.last with
    | some last =>
      let before := state.sequence last
      some (state.emit code (before ++ before.take 1))
    | none => some (state.emit code (state.sequence code))
  else if code < state.highest then some (state.emit code (state.sequence code))
  else none

end Unpacking

/-- Reads codes up to the end. `bits` holds `count` bits that have been taken but not used. -/
def read : Nat → Unpacking → Nat → Nat → Bytes → Unpacking × Option DecodeFault
  | 0, state, _, _, _ => (state, some .truncated)
  | fuel + 1, state, bits, count, input =>
    if count < state.width then
      match input with
      | [] => (state, some .truncated)
      | byte :: input => read fuel state (256 * bits + byte.toNat) (count + 8) input
    else
      let left := count - state.width
      let code := bits / Nat.pow 2 left
      if code = endCode then (state, none)
      else
        match state.take? code with
        | some state => read fuel state (bits % Nat.pow 2 left) left input
        | none => (state, some (.packing .code))

/-- Unpacks data, and says what is wrong with them. -/
def unpack (input : Bytes) : Array UInt8 × Option DecodeFault :=
  let (state, fault) := read (3 * input.length + 2) {} 0 0 input
  (state.output, fault)

end Mosaic.Lzw
