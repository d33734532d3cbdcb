import Mosaic.Text.Canonical

/-! One spelling for texts that look the same: marks in a fixed order and joined with their letters as
far as there are characters for that. Marks that pile up without end are cut into groups, so that a
reader never has to look further than one group. -/
namespace Mosaic.Text

/-- The class by which marks are ordered; zero for characters that keep their place. -/
def combiningClass (c : Char) : Nat :=
  if c.toNat < 0x300 then 0
  else
    match markClasses.find? fun (first, last, _) => first ≤ c.toNat && c.toNat ≤ last with
    | some (_, _, found) => found
    | none => 0

namespace Hangul

/-- The first syllable. -/
def base : Nat := 0xAC00

/-- The first leading consonant. -/
def leading : Nat := 0x1100

/-- The first vowel. -/
def vowel : Nat := 0x1161

/-- What stands before the first trailing consonant. -/
def trailing : Nat := 0x11A7

/-- The number of leading consonants. -/
def leadingCount : Nat := 19

/-- The number of vowels. -/
def vowelCount : Nat := 21

/-- The number of trailing consonants, none included. -/
def trailingCount : Nat := 28

/-- Whether a code point is that of a syllable. -/
def isSyllable (n : Nat) : Bool :=
  base ≤ n && n < base + leadingCount * vowelCount * trailingCount

/-- Whether a code point is that of a vowel or of a trailing consonant. -/
def isInner (n : Nat) : Bool :=
  (vowel ≤ n && n < vowel + vowelCount) || (trailing ≤ n && n < trailing + trailingCount)

/-- The letters of a syllable. -/
def letters (n : Nat) : List Char :=
  let index := n - base
  let ending := index % trailingCount
  let front := [Char.ofNat (leading + index / (vowelCount * trailingCount)),
    Char.ofNat (vowel + index / trailingCount % vowelCount)]
  if ending = 0 then front else front ++ [Char.ofNat (trailing + ending)]

/-- The syllable of a consonant and a vowel, or of a syllable and a consonant to end it. -/
def join? (a b : Nat) : Option Nat :=
  if leading ≤ a && a < leading + leadingCount && vowel ≤ b && b < vowel + vowelCount then
    some (base + ((a - leading) * vowelCount + (b - vowel)) * trailingCount)
  else if isSyllable a && (a - base) % trailingCount == 0 && trailing < b &&
      b < trailing + trailingCount then
    some (a + (b - trailing))
  else none

end Hangul

/-- The one character that an ideograph stands for. -/
def ideograph? (n : Nat) : Option Char :=
  if 0xF900 ≤ n && n < 0xFB00 then firstIdeographs.toList[n - 0xF900]?
  else if 0x2F800 ≤ n && n < 0x2FA20 then secondIdeographs.toList[n - 0x2F800]?
  else none

/-- The two characters that a character is made of. -/
def pair? (n : Nat) : Option (Nat × Nat) :=
  match composedPairs.find? (·.1 == n) with
  | some (_, parts) => some parts
  | none => (splitPairs.find? (·.1 == n)).map (·.2)

/-- The simplest characters that a character is the same as. None needs more than four steps. -/
def decomposeFrom : Nat → Char → List Char
  | 0, c => [c]
  | fuel + 1, c =>
    if c.toNat < 0xC0 then [c]
    else if Hangul.isSyllable c.toNat then Hangul.letters c.toNat
    else
      match ideograph? c.toNat with
      | some found => [found]
      | none =>
        match aliases.find? (·.1 == c.toNat) with
        | some (_, found) => decomposeFrom fuel (Char.ofNat found)
        | none =>
          match pair? c.toNat with
          | some (first, second) =>
            decomposeFrom fuel (Char.ofNat first) ++ decomposeFrom fuel (Char.ofNat second)
          | none => [c]

/-- The simplest characters that a character is the same as. -/
def decompose (c : Char) : List Char := decomposeFrom 4 c

/-- The character that two others make. -/
def compose? (a b : Char) : Option Char :=
  match Hangul.join? a.toNat b.toNat with
  | some n => some (Char.ofNat n)
  | none =>
    (composedPairs.find? fun (_, first, second) => first == a.toNat && second == b.toNat).map fun found =>
      Char.ofNat found.1

/-- Whether a character may join with what stands before it: a mark, or a letter that makes another
letter with the one before it. -/
def joinsBackward (c : Char) : Bool :=
  combiningClass c != 0 || Hangul.isInner c.toNat || composedPairs.any fun (_, _, second) => second == c.toNat

/-- Puts a mark behind all marks of its own or a lower class. -/
def insertMark (c : Char) : List Char → List Char
  | [] => [c]
  | other :: more =>
    if combiningClass c < combiningClass other then c :: other :: more
    else other :: insertMark c more

/-- Puts the marks between characters of class zero into order; marks of one class keep theirs. The
first argument holds the marks since the last such character. -/
def orderMarks : List Char → List Char → List Char
  | marks, [] => marks
  | marks, c :: rest =>
    if combiningClass c = 0 then marks ++ c :: orderMarks [] rest
    else orderMarks (insertMark c marks) rest

/-- Joins characters. `letter` is the last character of class zero and `marks` what follows it, last
first: a character can join with the letter unless a mark of the same or a higher class stands
between. -/
def joinMarks : Char → List Char → List Char → List Char
  | letter, marks, [] => letter :: marks.reverse
  | letter, marks, c :: rest =>
    let blocked := match marks with
      | [] => false
      | mark :: _ => combiningClass c ≤ combiningClass mark
    match if blocked then none else compose? letter c with
    | some joined => joinMarks joined marks rest
    | none =>
      if combiningClass c = 0 then letter :: marks.reverse ++ joinMarks c [] rest
      else joinMarks letter (c :: marks) rest

/-- Joins characters from the first one of class zero on. -/
def joinAll : List Char → List Char
  | [] => []
  | c :: rest => if combiningClass c = 0 then joinMarks c [] rest else c :: joinAll rest

/-- The greatest number of marks in one group. -/
def groupLimit : Nat := 30

/-- The character between two groups of marks; it is not visible. -/
def groupJoiner : Char := Char.ofNat 0x34F

/-- Cuts marks into groups. `count` is the number of marks since the last letter. -/
def cutGroups (count : Nat) : List Char → List Char
  | [] => []
  | c :: rest =>
    let parts := decompose c
    let front := (parts.takeWhile joinsBackward).length
    if front = 0 then c :: cutGroups (parts.reverse.takeWhile joinsBackward).length rest
    else if groupLimit < count + front then groupJoiner :: c :: cutGroups front rest
    else c :: cutGroups (count + front) rest

/-- The one spelling of a text. -/
def normalize (text : String) : String :=
  let chars := text.toList
  if chars.all (·.toNat < 0x300) then text
  else String.ofList (joinAll (orderMarks [] ((cutGroups 0 chars).flatMap decompose)))

end Mosaic.Text
