/-! Bytes read as UTF-8. A byte that begins no well-formed character stands for itself, so every byte
sequence is cut into segments and the segments concatenate to the input. -/
namespace Mosaic

/-- Renderer output and file contents: any bytes, not only well-formed text. -/
abbrev Bytes := List UInt8

/-- The bytes of a text. -/
def Bytes.ofString (text : String) : Bytes := text.toUTF8.data.toList

namespace Text

/-- A continuation byte within the given bounds. -/
def within (low high byte : UInt8) : Bool := low ≤ byte && byte ≤ high

/-- The length of the well-formed character at the front: the byte shapes of UTF-8, and one for a byte
that begins none of them. The length is never zero and never exceeds a non-empty input. -/
def segmentLength : Bytes → Nat
  | a :: b :: c :: d :: _ =>
    if within 0xC2 0xDF a && within 0x80 0xBF b then 2
    else if threeBytes a b c then 3
    else if fourBytes a b c d then 4
    else 1
  | [a, b, c] =>
    if within 0xC2 0xDF a && within 0x80 0xBF b then 2
    else if threeBytes a b c then 3
    else 1
  | [a, b] => if within 0xC2 0xDF a && within 0x80 0xBF b then 2 else 1
  | _ => 1
where
  /-- Three bytes that form one character: no overlong form and no surrogate. -/
  threeBytes (a b c : UInt8) : Bool :=
    within 0x80 0xBF c &&
      ((a == 0xE0 && within 0xA0 0xBF b) || (within 0xE1 0xEC a && within 0x80 0xBF b) ||
        (a == 0xED && within 0x80 0x9F b) || (within 0xEE 0xEF a && within 0x80 0xBF b))
  /-- Four bytes that form one character, up to the last code point. -/
  fourBytes (a b c d : UInt8) : Bool :=
    within 0x80 0xBF c && within 0x80 0xBF d &&
      ((a == 0xF0 && within 0x90 0xBF b) || (within 0xF1 0xF3 a && within 0x80 0xBF b) ||
        (a == 0xF4 && within 0x80 0x8F b))

/-- Cuts bytes into characters and stray bytes. -/
def segments : Bytes → List Bytes
  | [] => []
  | a :: rest =>
    let extra := segmentLength (a :: rest) - 1
    (a :: rest.take extra) :: segments (rest.drop extra)
termination_by bytes => bytes.length
decreasing_by simp only [List.length_drop, List.length_cons]; omega

/-- The character that a segment encodes; none for a stray byte. -/
def scalar? : Bytes → Option Char
  | [a] => if a < 0x80 then some (Char.ofNat a.toNat) else none
  | [a, b] => some (Char.ofNat ((a.toNat % 32) * 64 + b.toNat % 64))
  | [a, b, c] => some (Char.ofNat ((a.toNat % 16) * 4096 + (b.toNat % 64) * 64 + c.toNat % 64))
  | [a, b, c, d] =>
    some (Char.ofNat
      ((a.toNat % 8) * 262144 + (b.toNat % 64) * 4096 + (c.toNat % 64) * 64 + d.toNat % 64))
  | _ => none

/-- The text of well-formed bytes; none if a stray byte occurs. -/
def decode? (bytes : Bytes) : Option String :=
  ((segments bytes).mapM scalar?).map String.ofList

/-- The characters of any bytes, with U+FFFD for each stray byte. -/
def decodeLossy (bytes : Bytes) : List Char :=
  (segments bytes).map fun segment => (scalar? segment).getD (Char.ofNat 0xFFFD)

end Text

end Mosaic
