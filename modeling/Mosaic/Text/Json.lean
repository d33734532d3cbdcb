import Mosaic.Text.Decimal
import Mosaic.Text.Quoted

/-! JSON texts, in one line or indented. Texts are written so that they can stand inside a page: the
characters that mark tags and entities are escaped, and so are the two line separators. -/
namespace Mosaic.Text

/-- A JSON value. The fields of an object keep their order. -/
inductive Json where
  | null
  | bool (value : Bool)
  | number (value : Int64)
  | text (value : String)
  | list (items : List Json)
  | object (fields : List (String × Json))
  deriving Repr, Inhabited

/-- One character inside a JSON text. -/
def jsonChar (c : Char) : String :=
  match c.toNat with
  | 8 => "\\b"
  | 9 => "\\t"
  | 10 => "\\n"
  | 12 => "\\f"
  | 13 => "\\r"
  | 34 => "\\\""
  | 92 => "\\\\"
  | n =>
    if n < 0x20 || n = 0x26 || n = 0x3C || n = 0x3E || n = 0x2028 || n = 0x2029 then
      "\\u" ++ hex 4 n
    else c.toString

/-- A text as JSON. -/
def jsonText (text : String) : String :=
  "\"" ++ String.join (text.toList.map jsonChar) ++ "\""

namespace Json

/-- The text of a value without parts. -/
def atom : Json → String
  | null => "null"
  | bool value => if value then "true" else "false"
  | number value => decimal value
  | text value => jsonText value
  | list _ => "[]"
  | object _ => "\x7b\x7d"

mutual

/-- A value in one line, without blanks. -/
def compact : Json → String
  | list items => "[" ++ ",".intercalate (compactItems items) ++ "]"
  | object fields => "\x7b" ++ ",".intercalate (compactFields fields) ++ "\x7d"
  | value => value.atom

/-- The items of a list, each in one line. -/
def compactItems : List Json → List String
  | [] => []
  | item :: more => item.compact :: compactItems more

/-- The fields of an object, each in one line. -/
def compactFields : List (String × Json) → List String
  | [] => []
  | (name, value) :: more => (jsonText name ++ ":" ++ value.compact) :: compactFields more

end

/-- A line break and the indentation of a depth. -/
def newLine (depth : Nat) : String := "\n" ++ "".pushn ' ' (2 * depth)

/-- Parts on lines of their own between an opening and a closing mark. -/
def enclose (opening closing : String) (depth : Nat) : List String → String
  | [] => opening ++ closing
  | parts =>
    opening ++ newLine (depth + 1) ++ ("," ++ newLine (depth + 1)).intercalate parts ++
      newLine depth ++ closing

mutual

/-- A value over several lines; `depth` counts the values around it. -/
def indentedAt (depth : Nat) : Json → String
  | list items => enclose "[" "]" depth (indentedItems (depth + 1) items)
  | object fields => enclose "\x7b" "\x7d" depth (indentedFields (depth + 1) fields)
  | value => value.atom

/-- The items of a list. -/
def indentedItems (depth : Nat) : List Json → List String
  | [] => []
  | item :: more => item.indentedAt depth :: indentedItems depth more

/-- The fields of an object. -/
def indentedFields (depth : Nat) : List (String × Json) → List String
  | [] => []
  | (name, value) :: more =>
    (jsonText name ++ ": " ++ value.indentedAt depth) :: indentedFields depth more

end

/-- A value over several lines, two blanks for each depth. -/
def indented (value : Json) : String := value.indentedAt 0

end Json

end Mosaic.Text
