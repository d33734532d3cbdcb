import Mosaic.Error

/-! Durations as texts: a sign and then one or more decimals, each with a unit, as in `1h2m3.5s`. -/
namespace Mosaic.Duration

/-- The number of nanoseconds in a unit. -/
def unit? (unit : String) : Option Nat :=
  match unit with
  | "ns" => some 1
  | "us" => some 1000
  | "µs" => some 1000
  | "μs" => some 1000
  | "ms" => some 1000000
  | "s" => some 1000000000
  | "m" => some 60000000000
  | "h" => some 3600000000000
  | _ => none

/-- The greatest magnitude, that of the least machine integer. -/
def limit : Nat := 0x8000000000000000

/-- The digits after the point as a number, and the power of ten that it is over. Digits beyond what a
machine word holds are dropped. -/
def fraction (digits : List Char) : Nat × Float :=
  let (value, scale, _) := digits.foldl (fun (value, scale, full) c =>
    let next := value * 10 + (c.toNat - '0'.toNat)
    if full || (limit - 1) / 10 < value || limit < next then (value, scale, true)
    else (next, scale * 10, false)) (0, (1 : Float), false)
  (value, scale)

/-- The whole nanoseconds in a fraction of a unit, in floating point. -/
def fractionOf (unit value : Nat) (scale : Float) : Nat :=
  (value.toUInt64.toFloat * (unit.toUInt64.toFloat / scale)).toUInt64.toNat

/-- Whether a character belongs to a decimal rather than a unit. -/
def isDecimal (c : Char) : Bool := c == '.' || c.isDigit

/-- The sum of the terms of a duration, and how it goes wrong. The whole text is `text`. A sum beyond an
unsigned word starts again at zero. -/
def terms (text : String) : Nat → Nat → List Char → Except DurationFault Nat
  | _, sum, [] => .ok sum
  | 0, _, _ => .error (.malformed text)
  | fuel + 1, sum, source =>
    let whole := source.takeWhile Char.isDigit
    let (digits, rest) := match source.dropWhile Char.isDigit with
      | '.' :: more => (more.takeWhile Char.isDigit, more.dropWhile Char.isDigit)
      | more => ([], more)
    let count := whole.foldl (fun n c => n * 10 + (c.toNat - '0'.toNat)) 0
    let unitChars := rest.takeWhile (!isDecimal ·)
    let unitText := String.ofList unitChars
    if limit < count || (whole = [] && digits = []) then .error (.malformed text)
    else if unitChars = [] then .error (.missingUnit text)
    else
      match unit? unitText with
      | none => .error (.unknownUnit unitText text)
      | some unit =>
        let (value, scale) := fraction digits
        let amount := count * unit + (if value = 0 then 0 else fractionOf unit value scale)
        let next := (sum + amount) % 0x10000000000000000
        if limit / unit < count || limit < amount || limit < next then .error (.malformed text)
        else terms text fuel next (rest.dropWhile (!isDecimal ·))

/-- The nanoseconds of a duration. A bare zero needs no unit. -/
def parse (text : String) : Except DurationFault Int64 :=
  let (negative, body) := match text.toList with
    | '-' :: rest => (true, rest)
    | '+' :: rest => (false, rest)
    | rest => (false, rest)
  if body = ['0'] then .ok 0
  else if body = [] then .error (.malformed text)
  else
    match terms text body.length 0 body with
    | .error fault => .error fault
    | .ok sum =>
      if negative then .ok (Int64.ofInt (-sum))
      else if sum < limit then .ok (Int64.ofInt sum)
      else .error (.malformed text)

end Mosaic.Duration
