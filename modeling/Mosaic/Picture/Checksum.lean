import Mosaic.Text.Utf8

/-! Sums by which files tell whether their bytes arrived whole. -/
namespace Mosaic.Checksum

/-- One bit of a cyclic redundancy check. -/
def shift (sum : UInt32) : UInt32 :=
  if sum &&& 1 = 1 then (sum >>> 1) ^^^ 0xEDB88320 else sum >>> 1

/-- One byte of a cyclic redundancy check. -/
def cyclicStep (sum : UInt32) (byte : UInt8) : UInt32 :=
  (List.range 8).foldl (fun sum _ => shift sum) (sum ^^^ byte.toUInt32)

/-- The cyclic redundancy check of bytes, of 32 bits. -/
def cyclic (bytes : Bytes) : Nat := (bytes.foldl cyclicStep 0xFFFFFFFF ^^^ 0xFFFFFFFF).toNat

/-- The sum of bytes and the sum of their running sums, both modulo the largest prime below 2^16 and
side by side in 32 bits. -/
def doubleSum (bytes : Array UInt8) : Nat :=
  let (a, b) := bytes.foldl (fun (a, b) byte =>
    let a := (a + byte.toNat) % 65521
    (a, (b + a) % 65521)) (1, 0)
  65536 * b + a

end Mosaic.Checksum
