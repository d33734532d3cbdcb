/-! Numbers of configuration documents: binary fractions with a number of significant bits of their
own, each result rounded to the nearest and ties to even. Signed zeros and infinities belong to them. -/
namespace Mosaic.Config

/-- `± mantissa · 2 ^ exponent`, or an infinity, with the number of significant bits that results
made from it keep at least. The mantissa is odd or zero. -/
inductive Number where
  | finite (negative : Bool) (mantissa : Nat) (exponent : Int) (precision : Nat)
  | infinite (negative : Bool) (precision : Nat)
  deriving DecidableEq, Repr, Inhabited

namespace Number

/-- The significant bits of numbers that are written down. -/
def standardPrecision : Nat := 512

/-- The significant bits of positions in a list. -/
def positionPrecision : Nat := 64

/-- The greatest exponent of a number between a half and one times a power of two. -/
def greatestExponent : Int := Int32.maxValue.toInt

/-- The least exponent of a number between a half and one times a power of two. -/
def leastExponent : Int := Int32.minValue.toInt

/-- The number of binary digits. -/
def bits (n : Nat) : Nat := if n = 0 then 0 else Nat.log2 n + 1

/-- Divides by a power of two, to the nearest and ties to even. The flag says that the dividend stands
for something slightly greater. -/
def shiftRight (n places : Nat) (more : Bool) : Nat :=
  let kept := n >>> places
  let dropped := 2 * (n - (kept <<< places))
  let unit := 1 <<< places
  if unit < dropped || (unit == dropped && (more || kept % 2 == 1)) then kept + 1 else kept

/-- Moves factors of two from the mantissa to the exponent. Numbers beyond the range of exponents are
infinite or zero. -/
def reduce (precision : Nat) (negative : Bool) (mantissa : Nat) (exponent : Int) : Number :=
  if mantissa = 0 || exponent + bits mantissa < leastExponent then finite negative 0 0 precision
  else if greatestExponent < exponent + bits mantissa then infinite negative precision
  else
    let factor := Nat.gcd mantissa (1 <<< bits mantissa)
    finite negative (mantissa / factor) (exponent + Nat.log2 factor) precision

/-- The nearest number to `mantissa · 2 ^ exponent`. The flag says that the mantissa stands for something
slightly greater, and is set only where the mantissa has more bits than are kept. -/
def round (precision : Nat) (negative : Bool) (mantissa : Nat) (exponent : Int) (more : Bool) : Number :=
  let extra := bits mantissa - precision
  reduce precision negative (shiftRight mantissa extra more) (exponent + extra)

/-- The nearest number to `numerator / denominator · 2 ^ exponent`. -/
def ofQuotient (precision : Nat) (negative : Bool) (numerator denominator : Nat) (exponent : Int) :
    Number :=
  if numerator = 0 then finite negative 0 0 precision
  else
    let places : Int := precision + 2 + bits denominator - bits numerator
    let scaled := if 0 ≤ places then numerator <<< places.toNat else numerator
    let divisor := if 0 ≤ places then denominator else denominator <<< (-places).toNat
    round precision negative (scaled / divisor) (exponent - places) (scaled % divisor != 0)

/-- A whole number. -/
def ofInt (precision : Nat) (n : Int) : Number := round precision (n < 0) n.natAbs 0 false

/-- A position in a list. -/
def ofPosition (n : Nat) : Number := ofInt positionPrecision n

/-- The sign; zeros have one too. -/
def isNegative : Number → Bool
  | finite negative .. => negative
  | infinite negative _ => negative

/-- The number of significant bits. -/
def precision : Number → Nat
  | finite _ _ _ precision => precision
  | infinite _ precision => precision

/-- Whether the number is a zero. -/
def isZero : Number → Bool
  | finite _ mantissa _ _ => mantissa == 0
  | infinite .. => false

/-- The number with the other sign. -/
def neg : Number → Number
  | finite negative mantissa exponent precision => finite (!negative) mantissa exponent precision
  | infinite negative precision => infinite (!negative) precision

/-- A signed mantissa at a lower exponent. -/
def alignedTo (lowest : Int) (negative : Bool) (mantissa : Nat) (exponent : Int) : Int :=
  let aligned : Int := mantissa <<< (exponent - lowest).toNat
  if negative then -aligned else aligned

/-- The sum of two numbers that are not zero. Where one is far below the last bit of the other, any
number as far below it leads to the same result. -/
def sum (precision : Nat) (a : Bool) (m : Nat) (e : Int) (b : Bool) (n : Nat) (f : Int) : Number :=
  let far : Int := 2 * precision + bits m + bits n + 2
  let (m, e) := if e + far < f then (1, f - far) else (m, e)
  let (n, f) := if f + far < e then (1, e - far) else (n, f)
  let lowest := min e f
  let total := alignedTo lowest a m e + alignedTo lowest b n f
  round precision (total < 0) total.natAbs lowest false

/-- The sum with the given number of significant bits. Opposite infinities have none. A zero sum of
other numbers is positive, unless both summands are negative zeros. -/
def addTo? (precision : Nat) : Number → Number → Option Number
  | infinite a _, infinite b _ => if a == b then some (infinite a precision) else none
  | infinite a _, finite .. => some (infinite a precision)
  | finite .., infinite b _ => some (infinite b precision)
  | finite a m e _, finite b n f _ =>
    if m = 0 && n = 0 then some (finite (a && b) 0 0 precision)
    else if m = 0 then some (round precision b n f false)
    else if n = 0 then some (round precision a m e false)
    else some (sum precision a m e b n f)

/-- The sum. -/
def add? (a b : Number) : Option Number := addTo? (max a.precision b.precision) a b

/-- The difference. -/
def sub? (a b : Number) : Option Number := a.add? b.neg

/-- The product with the given number of significant bits. Zero times infinity has none. -/
def mulTo? (precision : Nat) : Number → Number → Option Number
  | finite a m e _, finite b n f _ => some (round precision (a != b) (m * n) (e + f) false)
  | a, b =>
    if a.isZero || b.isZero then none else some (infinite (a.isNegative != b.isNegative) precision)

/-- The number with at least the given number of significant bits, none of which is lost. -/
def keepAll (precision : Nat) : Number → Number
  | finite negative mantissa exponent _ =>
    finite negative mantissa exponent (max precision (bits mantissa))
  | infinite negative _ => infinite negative precision

/-- The product. It keeps the bits that it needs. -/
def mul? (a b : Number) : Option Number :=
  (mulTo? standardPrecision a b).map (keepAll (max a.precision b.precision))

/-- The quotient with the given number of significant bits. It is missing for two zeros and for two
infinities; any other division by zero gives an infinity. -/
def divTo? (precision : Nat) : Number → Number → Option Number
  | infinite .., infinite .. => none
  | infinite a _, finite b _ _ _ => some (infinite (a != b) precision)
  | finite a _ _ _, infinite b _ => some (finite (a != b) 0 0 precision)
  | finite a m e _, finite b n f _ =>
    if n = 0 then if m = 0 then none else some (infinite (a != b) precision)
    else some (ofQuotient precision (a != b) m n (e - f))

/-- The quotient. -/
def div? (a b : Number) : Option Number := divTo? (max a.precision b.precision) a b

/-- The whole part, rounded toward zero; none for infinities. -/
def truncate? : Number → Option Int
  | infinite .. => none
  | finite negative mantissa exponent _ =>
    let whole := if 0 ≤ exponent then mantissa <<< exponent.toNat else mantissa >>> (-exponent).toNat
    some (if negative then -(whole : Int) else whole)

/-- The remainder of the division toward zero, with the significant bits of the dividend. A zero
divisor leaves the dividend; infinities have no remainder. -/
def mod? (a b : Number) : Option Number :=
  if b.isZero then some a
  else do
    let whole ← (← a.div? b).truncate?
    let product ← mulTo? a.precision b (ofInt a.precision whole)
    addTo? a.precision a product.neg

/-- Whether the first number is less; zeros of both signs are the same. -/
def lt : Number → Number → Bool
  | infinite a _, infinite b _ => a && !b
  | infinite a _, finite .. => a
  | finite .., infinite b _ => !b
  | finite a m e _, finite b n f _ =>
    if m = 0 then n != 0 && !b
    else if n = 0 then a
    else if a != b then a
    else
      let below :=
        if e + bits m != f + bits n then e + bits m < f + bits n
        else
          let lowest := min e f
          m <<< (e - lowest).toNat < n <<< (f - lowest).toNat
      let equal := m = n && e = f
      !equal && below != a

/-- The machine integer that a number is; none for fractions and outside the range. -/
def toInt64? : Number → Option Int64
  | infinite .. => none
  | finite negative mantissa exponent _ =>
    if exponent < 0 && mantissa != 0 || 64 < exponent then none
    else
      let size : Int := mantissa <<< exponent.toNat
      let value := if negative then -size else size
      if Int64.minValue.toInt ≤ value && value ≤ Int64.maxValue.toInt then some (Int64.ofInt value)
      else none

/-- The decimal digits of a number in front of others, with zeros in front up to `18 · 2 ^ level`
digits. The number is split in the middle, so that long ones take few divisions. -/
def digitsBefore : Nat → Nat → List Char → List Char
  | 0, n, after =>
    let digits := Nat.toDigits 10 n
    List.replicate (18 - digits.length) '0' ++ digits ++ after
  | level + 1, n, after =>
    let half := Nat.pow 10 (18 * Nat.pow 2 level)
    digitsBefore level (n / half) (digitsBefore level (n % half) after)

/-- The decimal digits of a positive number. Eighteen of them hold at least 59 bits. -/
def decimalDigits (n : Nat) : List Char :=
  (digitsBefore ((bits n / 59).log2 + 1) n []).dropWhile (· == '0')

/-- Decimal digits without zeros at the end, and where the point stands: in front of them and then
that many places to the right. -/
structure Decimal where
  digits : List Char
  point : Int
  deriving DecidableEq, Repr, Inhabited

namespace Decimal

/-- A text without zeros at its end. -/
def withoutZeros (digits : List Char) : List Char :=
  (digits.reverse.dropWhile (· == '0')).reverse

/-- The exact decimal of `mantissa · 2 ^ exponent`. -/
def ofBinary (mantissa : Nat) (exponent : Int) : Decimal :=
  let places := (-exponent).toNat
  let whole := if 0 ≤ exponent then mantissa <<< exponent.toNat else mantissa * Nat.pow 5 places
  let digits := decimalDigits whole
  { digits := withoutZeros digits, point := digits.length - places }

/-- Only the first digits. -/
def cut (decimal : Decimal) (count : Nat) : Decimal :=
  { decimal with digits := withoutZeros (decimal.digits.take count) }

/-- Only the first digits, and one more in the last of them. -/
def cutUp (decimal : Decimal) (count : Nat) : Decimal :=
  match (decimal.digits.take count).reverse.dropWhile (· == '9') with
  | [] => { digits := ['1'], point := decimal.point + 1 }
  | last :: before =>
    { decimal with digits := (Char.ofNat (last.toNat + 1) :: before).reverse }

/-- Only the first digits, to the nearest; a tie goes to the even digit. -/
def cutNearest (decimal : Decimal) (count : Nat) : Decimal :=
  match decimal.digits.drop count with
  | [] => decimal
  | ['5'] =>
    match (decimal.digits.take count).getLast? with
    | some last => if last.toNat % 2 = 1 then decimal.cutUp count else decimal.cut count
    | none => decimal.cut count
  | next :: _ => if '5' ≤ next then decimal.cutUp count else decimal.cut count

/-- Whether exactly one digit is left. -/
def isLast : List Char → Bool
  | [_] => true
  | _ => false

/-- Whether more than one digit is left. -/
def goesOn : List Char → Bool
  | _ :: _ :: _ => true
  | _ => false

/-- Shortens a decimal between two others: at the first digit after which it may be cut downward,
upward or both ways, and then to the nearest. The bounds themselves are inside where the flag says so.
The first argument is what is left of the digits, and `count` the number of those before. -/
def shortenFrom (decimal : Decimal) (closed : Bool) : List Char → List Char → List Char → Nat → Decimal
  | [], _, _, _ => decimal
  | digit :: more, low, high, count =>
    let lowDigit := low.headD '0'
    let highDigit := high.headD '0'
    let down := lowDigit != digit || (closed && isLast low)
    let up := digit != highDigit && (closed || digit.toNat + 1 < highDigit.toNat || goesOn high)
    if more.isEmpty then decimal
    else if down && up then decimal.cutNearest (count + 1)
    else if down then decimal.cut (count + 1)
    else if up then decimal.cutUp (count + 1)
    else shortenFrom decimal closed more low.tail high.tail (count + 1)

/-- The decimal without an exponent. -/
def text (decimal : Decimal) : String :=
  let whole := decimal.digits.take decimal.point.toNat
  let zeros := List.replicate (decimal.point.toNat - whole.length) '0'
  let fraction :=
    List.replicate (-decimal.point).toNat '0' ++ decimal.digits.drop decimal.point.toNat
  String.ofList (if decimal.point ≤ 0 then ['0'] else whole ++ zeros) ++
    if decimal.digits.length ≤ decimal.point then "" else "." ++ String.ofList fraction

end Decimal

/-- The fewest decimal digits that round to the number, without an exponent. -/
def text : Number → String
  | infinite negative _ => if negative then "-Inf" else "+Inf"
  | finite negative mantissa exponent precision =>
    let sign := if negative then "-" else ""
    if mantissa = 0 then sign ++ "0"
    else
      let spare := precision + 1 - bits mantissa
      let halves := mantissa <<< spare
      let scale := exponent - spare
      let exact := Decimal.ofBinary mantissa exponent
      let low := Decimal.ofBinary (halves - 1) scale
      let high := Decimal.ofBinary (halves + 1) scale
      sign ++ (exact.shortenFrom (halves / 2 % 2 == 0) exact.digits low.digits high.digits 0).text

/-- Whether two numbers are the same, which they are if they have the same text; zeros of both signs
are. -/
def same (a b : Number) : Bool :=
  if a.isZero || b.isZero then a.isZero && b.isZero
  else a == b || (a.isNegative == b.isNegative && a.text == b.text)

/-- The value of decimal digits. -/
def digitsValue (digits : List Char) : Nat :=
  digits.foldl (fun sum c => sum * 10 + (c.toNat - '0'.toNat)) 0

/-- Multiplies by a power of a factor, squaring the factor as the exponent is halved. -/
def timesPower : Nat → Number → Number → Nat → Number
  | 0, product, _, _ => product
  | fuel + 1, product, factor, exponent =>
    if exponent = 0 then product
    else
      let product :=
        if exponent % 2 = 1 then (mulTo? product.precision product factor).getD product else product
      timesPower fuel product ((mulTo? factor.precision factor factor).getD factor) (exponent / 2)

/-- A power of five, with more significant bits than numbers that are written down. -/
def powerOfFive (exponent : Nat) : Number :=
  let precision := standardPrecision + 64
  if exponent ≤ 27 then ofInt precision (Int.pow 5 exponent)
  else timesPower 64 (ofInt precision (Int.pow 5 27)) (ofInt (precision + 64) 5) (exponent - 27)

/-- The number `digits · 10 ^ decimal · 2 ^ binary`. It is missing where the digits with all factors of
two are outside the range of exponents; what is too great only by the factors of five is infinite. -/
def ofScaled? (negative : Bool) (digits : Nat) (decimal binary : Int) : Option Number :=
  if digits = 0 then some (finite negative 0 0 standardPrecision)
  else
    let exponent := decimal + binary
    if exponent + bits digits < leastExponent || greatestExponent < exponent + bits digits then none
    else if decimal = 0 then some (round standardPrecision negative digits exponent false)
    else
      let power := powerOfFive decimal.natAbs
      let whole := finite negative digits exponent standardPrecision
      if 0 < decimal then mulTo? standardPrecision whole power
      else divTo? standardPrecision whole power

/-- A sign in front, and what follows it. -/
def signed : List Char → Bool × List Char
  | '-' :: rest => (true, rest)
  | '+' :: rest => (false, rest)
  | rest => (false, rest)

/-- An exponent that ends the text: its sign and digits. It is a machine integer. -/
def exponent? (text : List Char) : Option Int :=
  let (negative, digits) := signed text
  if digits = [] || !digits.all Char.isDigit then none
  else
    let value := if negative then -(digitsValue digits : Int) else digitsValue digits
    if Int64.minValue.toInt ≤ value && value ≤ Int64.maxValue.toInt then some value else none

/-- Reads a number: a sign, digits with at most one point among them, and an exponent of ten (`e`) or
of two (`p`). -/
def ofText? (text : String) : Option Number :=
  let (negative, body) := signed text.toList
  if body = ['I', 'n', 'f'] || body = ['i', 'n', 'f'] then some (infinite negative standardPrecision)
  else
    let whole := body.takeWhile Char.isDigit
    let afterWhole := body.dropWhile Char.isDigit
    let (fraction, rest) :=
      match afterWhole with
      | '.' :: more => (more.takeWhile Char.isDigit, more.dropWhile Char.isDigit)
      | more => ([], more)
    let digits := whole ++ fraction
    if digits = [] then none
    else
      let value := digitsValue digits
      let places : Int := fraction.length
      match rest with
      | [] => ofScaled? negative value (-places) 0
      | c :: more =>
        if c = 'e' || c = 'E' then
          (exponent? more).bind fun decimal => ofScaled? negative value (decimal - places) 0
        else if c = 'p' || c = 'P' then
          (exponent? more).bind fun binary => ofScaled? negative value (-places) binary
        else none

end Number

end Mosaic.Config
