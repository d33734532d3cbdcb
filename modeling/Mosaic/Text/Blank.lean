import Mosaic.Text.Utf8

/-! White space at the ends of a text. The class is Unicode's `White_Space`; zero-width characters are
not in it. -/
namespace Mosaic.Text

/-- The characters of Unicode's `White_Space` property. -/
def isBlank (c : Char) : Bool :=
  let n := c.toNat
  (9 ≤ n && n ≤ 13) || n == 0x20 || n == 0x85 || n == 0xA0 || n == 0x1680 ||
    (0x2000 ≤ n && n ≤ 0x200A) || n == 0x2028 || n == 0x2029 || n == 0x202F || n == 0x205F ||
    n == 0x3000

/-- A segment that encodes a white-space character. A stray byte is never blank. -/
def isBlankSegment (segment : Bytes) : Bool :=
  match scalar? segment with
  | some c => isBlank c
  | none => false

/-- Drops a list's elements of a class from both ends. -/
def dropEnds {α : Type} (drop : α → Bool) (xs : List α) : List α :=
  (((xs.dropWhile drop).reverse).dropWhile drop).reverse

/-- Bytes without the white space at their ends. -/
def trim (bytes : Bytes) : Bytes :=
  (dropEnds isBlankSegment (segments bytes)).flatten

/-- A text without the white space at its ends. -/
def trimText (text : String) : String :=
  String.ofList (dropEnds isBlank text.toList)

end Mosaic.Text
