import Mosaic.Text.Utf8

/-! Numbers in bytes, and bytes cut to size. -/
namespace Mosaic.Bytes

/-- The number of the given bytes, the highest of them first. -/
def highFirst (bytes : Bytes) : Nat := bytes.foldl (fun sum byte => 256 * sum + byte.toNat) 0

/-- The number of the given bytes, the lowest of them first. -/
def lowFirst (bytes : Bytes) : Nat := bytes.foldr (fun byte sum => byte.toNat + 256 * sum) 0

/-- A number of bytes from a position on; fewer where the bytes end before. -/
def slice (bytes : Bytes) (start count : Nat) : Bytes := (bytes.drop start).take count

/-- The first bytes and what follows them; none if there are not so many. -/
def split? (bytes : Bytes) (count : Nat) : Option (Bytes × Bytes) :=
  if bytes.length < count then none else some (bytes.take count, bytes.drop count)

/-- A number read as a signed one of four bytes. -/
def signed (n : Nat) : Int := if n < 0x80000000 then n else (n : Int) - 0x100000000

end Mosaic.Bytes
