import Mosaic.Text.Utf8
import Mosaic.Tile

/-! The progress markers in renderer output. A render marker reads `H:M:S Rendering line N of M`, a
parse marker `H:M:S Parsing NK`; letters count without regard to case and any run of ASCII white
space, line breaks included, may stand where the marker has a blank. Markers are found from left to
right, and the next search starts where the last marker ended. -/
namespace Mosaic.Marker

/-- An ASCII digit. -/
def isDigit (byte : UInt8) : Bool := 48 ≤ byte && byte ≤ 57

/-- Tab, line feed, form feed, carriage return or blank. -/
def isGap (byte : UInt8) : Bool :=
  byte == 9 || byte == 10 || byte == 12 || byte == 13 || byte == 32

/-- The first number that does not fit a machine integer. -/
def valueLimit : Nat := 0x8000000000000000

/-- The value of a run of digits; zero if it does not fit a machine integer. Counting stops at the
limit. -/
def value (digits : Bytes) : Int64 :=
  let n := digits.foldl
    (fun sum byte => if sum < valueLimit then sum * 10 + (byte.toNat - 48) else sum) 0
  if n < valueLimit then Int64.ofNat n else 0

/-- A run of one or more digits and what follows it. -/
def digits? (text : Bytes) : Option (Bytes × Bytes) :=
  match text.takeWhile isDigit with
  | [] => none
  | digits => some (digits, text.dropWhile isDigit)

/-- What follows a run of one or more gap bytes. -/
def gap? (text : Bytes) : Option Bytes :=
  match text.takeWhile isGap with
  | [] => none
  | _ => some (text.dropWhile isGap)

/-- What follows a colon. -/
def colon? : Bytes → Option Bytes
  | 58 :: rest => some rest
  | _ => none

/-- What follows a letter in either case. The letters `s` and `k` have a third form, the long s and
the Kelvin sign. -/
def letter? (lower : UInt8) : Bytes → Option Bytes
  | 0xC5 :: 0xBF :: rest => if lower == 0x73 then some rest else none
  | 0xE2 :: 0x84 :: 0xAA :: rest => if lower == 0x6B then some rest else none
  | byte :: rest => if byte == lower || byte + 32 == lower then some rest else none
  | [] => none

/-- The lower-case letters of `rendering`. -/
def rendering : Bytes := [114, 101, 110, 100, 101, 114, 105, 110, 103]

/-- The lower-case letters of `line`. -/
def line : Bytes := [108, 105, 110, 101]

/-- The lower-case letters of `of`. -/
def of : Bytes := [111, 102]

/-- The lower-case letters of `parsing`. -/
def parsing : Bytes := [112, 97, 114, 115, 105, 110, 103]

/-- What follows a word given by its lower-case letters. -/
def word? (letters : Bytes) (text : Bytes) : Option Bytes :=
  letters.foldlM (fun rest lower => letter? lower rest) text

/-- `H:M:S` and what follows. -/
def clock? (text : Bytes) : Option (Clock × Bytes) := do
  let (hour, text) ← digits? text
  let text ← colon? text
  let (min, text) ← digits? text
  let text ← colon? text
  let (sec, text) ← digits? text
  return ({ hour := value hour, min := value min, sec := value sec }, text)

/-- A render marker at the front, and what follows it. -/
def render? (text : Bytes) : Option (RenderReport × Bytes) := do
  let (elapsed, text) ← clock? text
  let text ← gap? text
  let text ← word? rendering text
  let text ← gap? text
  let text ← word? line text
  let text ← gap? text
  let (done, text) ← digits? text
  let text ← gap? text
  let text ← word? of text
  let text ← gap? text
  let (total, text) ← digits? text
  return ({ elapsed, line := value done, total := value total }, text)

/-- A parse marker at the front, and what follows it. -/
def parse? (text : Bytes) : Option (ParseReport × Bytes) := do
  let (elapsed, text) ← clock? text
  let text ← gap? text
  let text ← word? parsing text
  let text ← gap? text
  let (kilobytes, text) ← digits? text
  let text ← letter? 0x6B text
  return ({ elapsed, kilobytes := value kilobytes }, text)

/-- All markers from left to right, none overlapping another. A marker that did not shorten the text
would end the search; no marker is empty, so none does. -/
def all {α : Type} (marker? : Bytes → Option (α × Bytes)) (text : Bytes) : List α :=
  match text with
  | [] => []
  | byte :: rest =>
    match marker? (byte :: rest) with
    | none => all marker? rest
    | some (report, after) =>
      if after.length < rest.length + 1 then report :: all marker? after else [report]
termination_by text.length
decreasing_by all_goals simp only [List.length_cons]; omega

end Mosaic.Marker
