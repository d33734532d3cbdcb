import Mosaic.Text.Printable
import Mosaic.Text.Utf8

/-! Texts shown in messages: in double quotes, with an escape for everything that is not printable and
for every byte that is no character. -/
namespace Mosaic.Text

/-- The lower-case hexadecimal digits of a number, at least `width` of them. -/
def hex (width n : Nat) : String :=
  let digits := Nat.toDigits 16 n
  String.ofList (List.replicate (width - digits.length) '0' ++ digits)

/-- One character inside quotes. -/
def quotedChar (c : Char) : String :=
  if c = '"' then "\\\""
  else if c = '\\' then "\\\\"
  else if isPrintable c then c.toString
  else match c.toNat with
    | 7 => "\\a"
    | 8 => "\\b"
    | 9 => "\\t"
    | 10 => "\\n"
    | 11 => "\\v"
    | 12 => "\\f"
    | 13 => "\\r"
    | n =>
      if n < 0x20 || n == 0x7F then "\\x" ++ hex 2 n
      else if n < 0x10000 then "\\u" ++ hex 4 n
      else "\\U" ++ hex 8 n

/-- One segment inside quotes: a character by its rule, a stray byte as two hexadecimal digits. -/
def quotedSegment (segment : Bytes) : String :=
  match scalar? segment with
  | some c => quotedChar c
  | none => String.join (segment.map fun byte => "\\x" ++ hex 2 byte.toNat)

/-- Bytes in double quotes. -/
def quoteBytes (bytes : Bytes) : String :=
  "\"" ++ String.join ((segments bytes).map quotedSegment) ++ "\""

/-- A text in double quotes. -/
def quote (text : String) : String :=
  "\"" ++ String.join (text.toList.map quotedChar) ++ "\""

end Mosaic.Text
