import Mosaic.Text.Letter

/-! Whole numbers as literals: decimal, or in another base with `0b`, `0o`, `0x` or a plain zero in front.
Underscores may stand between digits and after the mark of a base. -/
namespace Mosaic.Text

/-- Why a text is no whole number of 64 bits. -/
inductive LiteralFault where
  | malformed
  | outOfRange
  deriving DecidableEq, Repr, Inhabited

/-- The value of a digit in the bases up to 36. -/
def digitValue? (c : Char) : Option Nat :=
  if '0' ≤ c && c ≤ '9' then some (c.toNat - '0'.toNat)
  else if 'a' ≤ c && c ≤ 'z' then some (c.toNat - 'a'.toNat + 10)
  else if 'A' ≤ c && c ≤ 'Z' then some (c.toNat - 'A'.toNat + 10)
  else none

/-- The base that the beginning of a literal names, and the digits after the mark. -/
def literalBase : List Char → Nat × List Char
  | '0' :: mark :: digit :: rest =>
    match lowerAscii mark with
    | 'b' => (2, digit :: rest)
    | 'o' => (8, digit :: rest)
    | 'x' => (16, digit :: rest)
    | _ => (8, mark :: digit :: rest)
  | '0' :: rest => (8, rest)
  | digits => (10, digits)

/-- What was seen last: a digit or the mark of a base, an underscore, or something else. -/
inductive LastSeen where
  | digit
  | underscore
  | other
  deriving DecidableEq, Repr, Inhabited

/-- Whether each underscore of the digits stands between digits; `last` is what stood before them. -/
def underscoresSeparate (isHex : Bool) : LastSeen → List Char → Bool
  | last, [] => last != .underscore
  | last, c :: rest =>
    if c.isDigit || (isHex && ('a' ≤ lowerAscii c && lowerAscii c ≤ 'f')) then
      underscoresSeparate isHex .digit rest
    else if c = '_' then last = .digit && underscoresSeparate isHex .underscore rest
    else last != .underscore && underscoresSeparate isHex .other rest

/-- Whether the underscores of an unsigned literal are in their places. -/
def underscoresFit (literal : List Char) : Bool :=
  match literal with
  | '0' :: mark :: rest =>
    if ['b', 'o', 'x'].contains (lowerAscii mark) then
      underscoresSeparate (lowerAscii mark = 'x') .digit rest
    else underscoresSeparate false .other literal
  | _ => underscoresSeparate false .other literal

/-- The value of digits in a base; underscores do not count. Reading ends where the value no longer fits
into an unsigned word, whatever follows. -/
def digitsValue (base : Nat) : Nat → List Char → Except LiteralFault Nat
  | value, [] => .ok value
  | value, c :: rest =>
    if c = '_' then digitsValue base value rest
    else
      match digitValue? c with
      | some digit =>
        if base ≤ digit then .error .malformed
        else if 0x10000000000000000 ≤ value * base + digit then .error .outOfRange
        else digitsValue base (value * base + digit) rest
      | none => .error .malformed

/-- The value of an unsigned literal. -/
def magnitude (literal : List Char) : Except LiteralFault Nat :=
  let (base, digits) := literalBase literal
  if literal = [] then .error .malformed
  else
    match digitsValue base 0 digits with
    | .ok value => if underscoresFit literal then .ok value else .error .malformed
    | .error fault => .error fault

/-- The sign and the rest of a literal. -/
def splitSign : List Char → Bool × List Char
  | '-' :: rest => (true, rest)
  | '+' :: rest => (false, rest)
  | literal => (false, literal)

/-- The whole number of a literal. -/
def parseInteger (text : String) : Except LiteralFault Int64 :=
  let (isNegative, literal) := splitSign text.toList
  match magnitude literal with
  | .error fault => .error fault
  | .ok magnitude =>
    let value : Int := if isNegative then -magnitude else magnitude
    if Int64.minValue.toInt ≤ value && value ≤ Int64.maxValue.toInt then .ok (Int64.ofInt value)
    else .error .outOfRange

/-- The truth value of a text, in the spellings that switches accept. -/
def parseBool? (text : String) : Option Bool :=
  if ["1", "t", "T", "TRUE", "true", "True"].contains text then some true
  else if ["0", "f", "F", "FALSE", "false", "False"].contains text then some false
  else none

end Mosaic.Text
