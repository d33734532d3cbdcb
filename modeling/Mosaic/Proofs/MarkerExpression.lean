import Mosaic.Proofs.Characters
import Mosaic.Proofs.MarkerGrammar
import Mosaic.Proofs.RegularExpression

/-! The two kinds of markers as regular expressions over the characters of the output. The scanner
works on bytes and never goes back, and yet it takes what a backtracking search of the characters
finds first: no piece of a marker can give back a character that its neighbour could take, and a byte
that is no ASCII character is part of a marker only in a Kelvin sign or a long s. -/
namespace Mosaic
open Text

namespace Marker
open Regex (Hit)

/-! ## The two expressions -/

/-- Simple case folding as far as it leads to ASCII: beside the capitals only the Kelvin sign and the
long s fold to an ASCII letter. -/
def folded (char : Char) : Char :=
  if char = Char.ofNat 0x212A then 'k'
  else if char = Char.ofNat 0x17F then 's'
  else char.toLower

/-- Tab, line feed, form feed, carriage return or blank. -/
def isSpace (char : Char) : Bool :=
  char == '\t' || char == '\n' || char == '\x0c' || char == '\r' || char == ' '

/-- `(\d+)`. -/
def numberRegex : Regex := .group (.run Char.isDigit)

/-- `\s+`. -/
def spaceRegex : Regex := .run isSpace

/-- A text as it stands, without regard to case. -/
def literalRegex (text : String) : List Regex :=
  text.toList.map fun char => .one (folded · == folded char)

/-- `(\d+):(\d+):(\d+)\s+`. -/
def clockRegex : List Regex :=
  [numberRegex] ++ literalRegex ":" ++ [numberRegex] ++ literalRegex ":" ++ [numberRegex, spaceRegex]

/-- `(\d+):(\d+):(\d+)\s+Rendering\s+line\s+(\d+)\s+of\s+(\d+)`. -/
def renderRegex : Regex :=
  .row (clockRegex ++ literalRegex "Rendering" ++ [spaceRegex] ++ literalRegex "line" ++
    [spaceRegex, numberRegex, spaceRegex] ++
    literalRegex "of" ++ [spaceRegex, numberRegex])

/-- `(\d+):(\d+):(\d+)\s+Parsing\s+(\d+)K`. -/
def parseRegex : Regex :=
  .row (clockRegex ++ literalRegex "Parsing" ++ [spaceRegex, numberRegex] ++ literalRegex "K")

/-- The expression of a piece. -/
def Piece.regex : Piece → Regex
  | .digits => numberRegex
  | .gap => spaceRegex
  | .colon => .one (folded · == ':')
  | .letter lower => .one (folded · == Char.ofNat lower.toNat)

/-- The expression of a pattern. -/
def Pattern.regex (pattern : Pattern) : Regex := .row (pattern.pieces.map Piece.regex)

theorem literalRegex_eq {text : String} (letters : Bytes)
    (spelled : text.toList.map folded = letters.map fun lower => Char.ofNat lower.toNat) :
    literalRegex text = letters.map fun lower => (Piece.letter lower).regex := by
  have same := congrArg (List.map fun lower : Char => Regex.one (folded · == lower)) spelled
  rw [List.map_map, List.map_map] at same
  exact same

theorem render_regex : Pattern.render.regex = renderRegex := by
  rw [renderRegex, literalRegex_eq rendering (by decide), literalRegex_eq line (by decide),
    literalRegex_eq of (by decide)]
  rfl

theorem parse_regex : Pattern.parse.regex = parseRegex := by
  rw [parseRegex, literalRegex_eq parsing (by decide)]
  rfl

/-! ## Classes of characters and of bytes -/

/-- The characters of ASCII bytes. -/
def chars (text : Bytes) : List Char := text.map fun byte => Char.ofNat byte.toNat

/-- A class of characters and a class of bytes mean the same ASCII characters and no others. -/
structure Agrees (accepts : Char → Bool) (holds : UInt8 → Bool) : Prop where
  ascii : ∀ byte, byte < 0x80 → accepts (Char.ofNat byte.toNat) = holds byte
  highByte : ∀ byte, 0x80 ≤ byte → holds byte = false
  highChar : ∀ char, 0x80 ≤ char.toNat → accepts char = false

theorem Agrees.low {accepts : Char → Bool} {holds : UInt8 → Bool} (agrees : Agrees accepts holds)
    {byte : UInt8} (held : holds byte = true) : byte < 0x80 := by
  by_contra high
  rw [agrees.highByte byte (by simpa using high)] at held
  cases held

/-- A property of the ASCII bytes can be checked one by one. -/
theorem forall_ascii {property : UInt8 → Prop}
    (each : ∀ n < 128, property (UInt8.ofNat n)) (byte : UInt8) (low : byte < 0x80) :
    property byte := by
  have checked := each byte.toNat (UInt8.lt_iff_toNat_lt.mp low)
  rwa [UInt8.ofNat_toNat] at checked

theorem digit_agrees : Agrees Char.isDigit isDigit where
  ascii := forall_ascii (by decide +kernel)
  highByte byte high := by
    simp only [isDigit, Bool.and_eq_false_iff, decide_eq_false_iff_not]
    grind
  highChar char high := by
    simp only [Char.isDigit, Bool.and_eq_false_iff, decide_eq_false_iff_not]
    right
    intro low
    have bound : char.toNat ≤ 57 := low
    omega

theorem space_agrees : Agrees isSpace isGap where
  ascii := forall_ascii (by decide +kernel)
  highByte byte high := by
    simp only [isGap, Bool.or_eq_false_iff, beq_eq_false_iff_ne]
    grind
  highChar char high := by
    have other : ∀ blank : Char, blank.toNat < 0x80 → (char == blank) = false := by
      intro blank low
      rw [beq_eq_false_iff_ne]
      rintro rfl
      omega
    simp only [isSpace, other, Char.reduceToNat, Nat.reduceLT, Bool.or_self]

/-- Among ASCII characters folding moves the capitals and nothing else. -/
theorem folded_code {char : Char} (low : char.toNat < 128) :
    (folded char).toNat =
      if 65 ≤ char.toNat ∧ char.toNat ≤ 90 then char.toNat + 32 else char.toNat := by
  have table : ∀ n < 128, (folded (Char.ofNat n)).toNat = if 65 ≤ n ∧ n ≤ 90 then n + 32 else n := by
    decide +kernel
  have code := table char.toNat low
  rwa [Char.ofNat_toNat] at code

/-- Only ASCII letters, the Kelvin sign and the long s fold to an ASCII letter. -/
theorem folded_high {char : Char} (high : 0x80 ≤ char.toNat) (low : (folded char).toNat < 0x80) :
    (char.toNat = 0x212A ∧ folded char = 'k') ∨ (char.toNat = 0x17F ∧ folded char = 's') := by
  unfold folded at low ⊢
  split
  · rename_i kelvin
    rw [kelvin]
    exact .inl ⟨by decide, rfl⟩
  · split
    · rename_i longS
      rw [longS]
      exact .inr ⟨by decide, rfl⟩
    · rename_i noKelvin noLongS
      have capital : ¬ (char.val ≥ 'A'.val ∧ char.val ≤ 'Z'.val) := by
        rintro ⟨-, bound⟩
        have small : char.toNat ≤ 90 := bound
        omega
      have unchanged : char.toLower = char := dif_neg capital
      rw [if_neg noKelvin, if_neg noLongS, unchanged] at low
      omega

/-! ## One piece -/

namespace Piece

/-- Whether a text of the piece may begin with the character. -/
def begins : Piece → Char → Bool
  | .digits, char => char.isDigit
  | .gap, char => isSpace char
  | .colon, char => folded char == ':'
  | .letter lower, char => folded char == Char.ofNat lower.toNat

/-- Whether the character after a text of the piece could belong to the piece as well. -/
def prolongs : Piece → Char → Bool
  | .digits, char => char.isDigit
  | .gap, char => isSpace char
  | _, _ => false

theorem attempts_of_begins {piece : Piece} {char : Char} (other : piece.begins char = false)
    (rest : List Char) : piece.regex.attempts (char :: rest) = [] := by
  cases piece with
  | digits => simp_all [begins, regex, numberRegex, Regex.attempts, Regex.runs]
  | gap => simp_all [begins, regex, spaceRegex, Regex.attempts, Regex.runs]
  | colon => simp_all [begins, regex, Regex.attempts]
  | letter lower => simp_all [begins, regex, Regex.attempts]

theorem attempts_nil (piece : Piece) : piece.regex.attempts [] = [] := by
  cases piece with
  | digits => rfl
  | gap => rfl
  | colon => rfl
  | letter lower => rfl

/-- Digits and blanks are neither each other nor colons nor letters. -/
theorem classes_apart {char : Char} (either : char.isDigit = true ∨ isSpace char = true) :
    (char.isDigit = true → isSpace char = false) ∧ (folded char).toNat < 58 := by
  have low : char.toNat < 128 := by
    by_contra high
    have digit := digit_agrees.highChar char (by omega)
    have blank := space_agrees.highChar char (by omega)
    simp [digit, blank] at either
  have table : ∀ n < 128, ((Char.ofNat n).isDigit = true ∨ isSpace (Char.ofNat n) = true) →
      ((Char.ofNat n).isDigit = true → isSpace (Char.ofNat n) = false) ∧ n < 58 := by
    decide +kernel
  have apart := table char.toNat low
  rw [Char.ofNat_toNat] at apart
  obtain ⟨classes, bound⟩ := apart either
  rw [folded_code low, if_neg (by omega)]
  exact ⟨classes, bound⟩

theorem letter_range {lower : UInt8} (proper : (Piece.letter lower).isProper = true) :
    97 ≤ lower.toNat ∧ lower.toNat ≤ 122 := by
  simpa [isProper, UInt8.le_iff_toNat_le] using proper

theorem letter_code {lower : UInt8} (proper : (Piece.letter lower).isProper = true) :
    (Char.ofNat lower.toNat).toNat = lower.toNat := by
  have range := letter_range proper
  exact ofNat_toNat_of_valid (.inl (by omega))

/-- A digit or a blank that one piece could have taken begins no text of its neighbour. -/
theorem begins_of_prolongs {first second : Piece} {char : Char}
    (prolonged : first.prolongs char = true) (proper : second.isProper = true)
    (separated : first.separates second = true) : second.begins char = false := by
  have either : char.isDigit = true ∨ isSpace char = true := by
    cases first with
    | digits => exact .inl prolonged
    | gap => exact .inr prolonged
    | colon => cases prolonged
    | letter => cases prolonged
  obtain ⟨classes, bound⟩ := classes_apart either
  cases second with
  | digits =>
    cases first with
    | digits => cases separated
    | gap =>
      by_contra digit
      have blank := classes (by simpa [begins] using digit)
      rw [show isSpace char = true from prolonged] at blank
      cases blank
    | colon => cases prolonged
    | letter => cases prolonged
  | gap =>
    cases first with
    | digits => exact classes prolonged
    | gap => cases separated
    | colon => cases prolonged
    | letter => cases prolonged
  | colon =>
    have other : folded char ≠ ':' := by
      intro same
      rw [same] at bound
      exact absurd bound (by decide)
    simpa [begins] using other
  | letter lower =>
    have other : folded char ≠ Char.ofNat lower.toNat := by
      intro same
      rw [same, letter_code proper] at bound
      have least := letter_range proper
      omega
    simpa [begins] using other

end Piece

/-- The runs of a class at the front of the characters: the whole run of bytes first, then shorter
ones that leave a character of the class behind. -/
theorem runs_eq {accepts : Char → Bool} {holds : UInt8 → Bool} (agrees : Agrees accepts holds)
    (text : Bytes) :
    (text.takeWhile holds = [] → Regex.runs accepts (decodeLossy text) = []) ∧
      (text.takeWhile holds ≠ [] → ∃ shorter, Regex.runs accepts (decodeLossy text) =
          (chars (text.takeWhile holds), decodeLossy (text.dropWhile holds)) :: shorter ∧
        ∀ span ∈ shorter, ∃ char more, span.2 = char :: more ∧ accepts char = true) := by
  induction text with
  | nil => simp [decodeLossy, Regex.runs]
  | cons byte rest ih =>
    by_cases held : holds byte = true
    · have low := agrees.low held
      have accepted : accepts (Char.ofNat byte.toNat) = true := by rw [agrees.ascii byte low, held]
      rw [List.takeWhile_cons_of_pos held, List.dropWhile_cons_of_pos held, decodeLossy_ascii low]
      refine ⟨fun empty => absurd empty (by simp), fun _ => ?_⟩
      simp only [Regex.runs, accepted, if_true]
      by_cases last : rest.takeWhile holds = []
      · rw [ih.1 last, last]
        have whole := @List.takeWhile_append_dropWhile _ holds rest
        rw [last, List.nil_append] at whole
        rw [whole]
        exact ⟨[], rfl, by simp⟩
      · obtain ⟨shorter, runs, left⟩ := ih.2 last
        refine ⟨_, by rw [runs]; rfl, fun span member => ?_⟩
        rcases List.mem_append.mp member with inside | only
        · obtain ⟨longer, among, rfl⟩ := List.mem_map.mp inside
          exact left longer among
        · -- The shortest run leaves the rest of the bytes, which begin with one of the class.
          obtain rfl := List.mem_singleton.mp only
          cases rest with
          | nil => exact absurd rfl last
          | cons next others =>
            have also : holds next = true := by
              by_contra other
              exact last (List.takeWhile_cons_of_neg other)
            have accepted := agrees.ascii next (agrees.low also)
            exact ⟨_, _, decodeLossy_ascii (agrees.low also) others, accepted.trans also⟩
    · refine ⟨fun _ => ?_, fun some => absurd (List.takeWhile_cons_of_neg held) some⟩
      obtain ⟨char, after, first, decoded⟩ := decodeLossy_first (List.cons_ne_nil byte rest)
      have other : accepts char = false := by
        rcases first.ascii_or_high with ⟨_, same, low, rfl⟩ | ⟨_, _, _, _, high⟩
        · cases same
          rw [agrees.ascii byte low]
          simpa using held
        · exact agrees.highChar char high
      rw [decoded, Regex.runs, if_neg (by simp [other])]

namespace Piece

/-- The ASCII forms of a letter. -/
theorem folded_ascii {byte lower : UInt8} (low : byte < 0x80)
    (proper : (Piece.letter lower).isProper = true) :
    folded (Char.ofNat byte.toNat) = Char.ofNat lower.toNat ↔ byte = lower ∨ byte + 32 = lower := by
  have range := letter_range proper
  have small := UInt8.lt_iff_toNat_lt.mp low
  simp only [UInt8.reduceToNat] at small
  have code : (Char.ofNat byte.toNat).toNat = byte.toNat := ofNat_toNat_of_valid (.inl (by omega))
  have shifted : (byte + 32).toNat = byte.toNat + 32 := by
    rw [UInt8.toNat_add]
    exact Nat.mod_eq_of_lt (by simp only [UInt8.reduceToNat]; omega)
  rw [← Char.toNat_inj, folded_code (by omega), letter_code proper, code, ← UInt8.toNat_inj,
    ← UInt8.toNat_inj, shifted]
  split <;> omega

/-- A text of a colon or a letter is one character, which the piece accepts. -/
theorem Spells.decoded {piece : Piece} {span : Bytes} (spelled : piece.Spells span)
    (proper : piece.isProper = true) (single : ∀ char, piece.prolongs char = false) (rest : Bytes) :
    ∃ char, decodeLossy (span ++ rest) = char :: decodeLossy rest ∧ piece.begins char = true := by
  cases spelled with
  | digits => exact absurd (single '0') (by decide)
  | gap => exact absurd (single ' ') (by decide)
  | colon => exact ⟨':', decodeLossy_ascii (by decide) rest, by decide⟩
  | lowerCase lower =>
    have low : lower < 0x80 := by
      simp only [isProper, Bool.and_eq_true, decide_eq_true_eq] at proper
      grind
    refine ⟨_, decodeLossy_ascii low rest, ?_⟩
    simpa [begins] using (folded_ascii low proper).mpr (.inl rfl)
  | upperCase lower =>
    have low : lower - 32 < 0x80 := by
      simp only [isProper, Bool.and_eq_true, decide_eq_true_eq] at proper
      grind
    refine ⟨_, decodeLossy_ascii low rest, ?_⟩
    simpa [begins] using (folded_ascii low proper).mpr (.inr (by simp))
  | longS => exact ⟨_, decodeLossy_longS rest, by decide⟩
  | kelvin => exact ⟨_, decodeLossy_kelvin rest, by decide⟩

/-- A first character that a colon or a letter accepts is a text of the piece. -/
theorem spells_of_begins {piece : Piece} {text rest : Bytes} {char : Char}
    (first : FirstChar text char rest) (proper : piece.isProper = true)
    (single : ∀ char, piece.prolongs char = false) (accepted : piece.begins char = true) :
    ∃ span, text = span ++ rest ∧ piece.Spells span := by
  cases piece with
  | digits => exact absurd (single '0') (by decide)
  | gap => exact absurd (single ' ') (by decide)
  | colon =>
    have same : folded char = ':' := by simpa [begins] using accepted
    rcases first.ascii_or_high with ⟨byte, rfl, low, rfl⟩ | ⟨-, -, -, -, high⟩
    · have table : ∀ byte : UInt8, byte < 0x80 → folded (Char.ofNat byte.toNat) = ':' →
          byte = 58 := forall_ascii (by decide +kernel)
      rw [table byte low same]
      exact ⟨[58], rfl, .colon⟩
    · rcases folded_high high (by rw [same]; decide) with ⟨-, other⟩ | ⟨-, other⟩
      · exact absurd (other.symm.trans same) (by decide)
      · exact absurd (other.symm.trans same) (by decide)
  | letter lower =>
    have same : folded char = Char.ofNat lower.toNat := by simpa [begins] using accepted
    rcases first.ascii_or_high with ⟨byte, rfl, low, rfl⟩ | ⟨-, -, -, -, high⟩
    · rcases (folded_ascii low proper).mp same with rfl | upper
      · exact ⟨[byte], rfl, .lowerCase byte⟩
      · have capital : byte = lower - 32 := by rw [← upper]; simp
        rw [capital]
        exact ⟨[lower - 32], rfl, .upperCase lower⟩
    · have code := letter_code proper
      have range := letter_range proper
      rcases folded_high high (by rw [same, code]; omega) with ⟨kelvin, k⟩ | ⟨longS, isS⟩
      · have letter : lower = 0x6B := by
          rw [← UInt8.toNat_inj, ← code, ← same, k]
          rfl
        rw [first.kelvin kelvin, letter]
        exact ⟨[0xE2, 0x84, 0xAA], rfl, .kelvin⟩
      · have letter : lower = 0x73 := by
          rw [← UInt8.toNat_inj, ← code, ← same, isS]
          rfl
        rw [first.longS longS, letter]
        exact ⟨[0xC5, 0xBF], rfl, .longS⟩

theorem none_of_single {piece : Piece} (proper : piece.isProper = true)
    (single : ∀ char, piece.prolongs char = false) {text : Bytes} (absent : piece.step text = none) :
    piece.regex.attempts (decodeLossy text) = [] := by
  by_cases empty : text = []
  · rw [empty, decodeLossy, segments]
    exact piece.attempts_nil
  · obtain ⟨char, rest, first, decoded⟩ := decodeLossy_first empty
    rw [decoded]
    apply attempts_of_begins
    by_contra accepted
    obtain ⟨span, split, spelled⟩ := spells_of_begins first proper single (by simpa using accepted)
    have found := (step_iff proper text rest (piece.group span)).mpr ⟨span, split, spelled, rfl, by
      intro byte _
      cases piece with
      | digits => exact absurd (single '0') (by decide)
      | gap => exact absurd (single ' ') (by decide)
      | colon => rfl
      | letter => rfl⟩
    rw [absent] at found
    cases found

theorem some_of_single {piece : Piece} (proper : piece.isProper = true)
    (single : ∀ char, piece.prolongs char = false) {text rest : Bytes} {groups : List Bytes}
    (found : piece.step text = some (groups, rest)) :
    ∃ taken, piece.regex.attempts (decodeLossy text) =
      [⟨taken, groups.map chars, decodeLossy rest⟩] := by
  obtain ⟨span, rfl, spelled, rfl, -⟩ := (step_iff proper text rest groups).mp found
  obtain ⟨char, decoded, accepted⟩ := spelled.decoded proper single rest
  rw [decoded]
  cases piece with
  | digits => exact absurd (single '0') (by decide)
  | gap => exact absurd (single ' ') (by decide)
  | colon => exact ⟨[char], if_pos accepted⟩
  | letter => exact ⟨[char], if_pos accepted⟩

/-- Where the scanner finds no text of the piece, the piece has no match. -/
theorem attempts_of_none {piece : Piece} (proper : piece.isProper = true) {text : Bytes}
    (absent : piece.step text = none) : piece.regex.attempts (decodeLossy text) = [] := by
  cases piece with
  | digits =>
    have none : text.takeWhile isDigit = [] := by
      simp only [step, digits?, Option.map_eq_none_iff] at absent
      split at absent
      · assumption
      · cases absent
    simp [regex, numberRegex, Regex.attempts, (runs_eq digit_agrees text).1 none]
  | gap =>
    have none : text.takeWhile isGap = [] := by
      simp only [step, gap?, Option.map_eq_none_iff] at absent
      split at absent
      · assumption
      · cases absent
    simp [regex, spaceRegex, Regex.attempts, (runs_eq space_agrees text).1 none]
  | colon => exact none_of_single proper (fun _ => rfl) absent
  | letter => exact none_of_single proper (fun _ => rfl) absent

/-- What the scanner takes for a piece is the first match of the piece. Any other leaves a character
that the piece could have taken. -/
theorem attempts_of_some {piece : Piece} (proper : piece.isProper = true) {text rest : Bytes}
    {groups : List Bytes} (found : piece.step text = some (groups, rest)) :
    ∃ taken shorter, piece.regex.attempts (decodeLossy text) =
        ⟨taken, groups.map chars, decodeLossy rest⟩ :: shorter ∧
      ∀ hit ∈ shorter, ∃ char more, hit.rest = char :: more ∧ piece.prolongs char = true := by
  cases piece with
  | digits =>
    simp only [step, digits?, Option.map_eq_some_iff, Prod.mk.injEq, Prod.exists] at found
    obtain ⟨span, after, found, rfl, rfl⟩ := found
    split at found
    · cases found
    · rename_i nonempty
      cases found
      obtain ⟨shorter, runs, left⟩ := (runs_eq digit_agrees text).2 nonempty
      simp only [regex, numberRegex, Regex.attempts, runs, List.map_cons, List.map_map]
      refine ⟨_, _, rfl, fun hit member => ?_⟩
      obtain ⟨span, among, rfl⟩ := List.mem_map.mp member
      exact left span among
  | gap =>
    simp only [step, gap?, Option.map_eq_some_iff, Prod.mk.injEq] at found
    obtain ⟨after, found, rfl, rfl⟩ := found
    split at found
    · cases found
    · rename_i nonempty
      cases found
      obtain ⟨shorter, runs, left⟩ := (runs_eq space_agrees text).2 nonempty
      simp only [regex, spaceRegex, Regex.attempts, runs, List.map_cons]
      refine ⟨_, _, rfl, fun hit member => ?_⟩
      obtain ⟨span, among, rfl⟩ := List.mem_map.mp member
      exact left span among
  | colon =>
    obtain ⟨taken, attempts⟩ := some_of_single proper (fun _ => rfl) found
    exact ⟨taken, [], attempts, by simp⟩
  | letter =>
    obtain ⟨taken, attempts⟩ := some_of_single proper (fun _ => rfl) found
    exact ⟨taken, [], attempts, by simp⟩

end Piece

/-! ## A row of pieces -/

/-- The first match of a row of pieces in the order of a backtracking search is what the scanner takes
off, with the same groups and the same rest. -/
theorem attempts_row {pieces : List Piece} (proper : ∀ piece ∈ pieces, piece.isProper = true)
    (separated : pieces.IsChain (fun first second => first.separates second = true))
    (text : Bytes) :
    ((Regex.row (pieces.map Piece.regex)).attempts (decodeLossy text)).head?.map
        (fun hit => (hit.groups, hit.rest)) =
      (scan pieces text).map fun found => (found.1.map chars, decodeLossy found.2) := by
  induction pieces generalizing text with
  | nil => rfl
  | cons piece more ih =>
    have properHead := proper piece (by simp)
    have ih := ih (fun other member => proper other (by simp [member])) separated.tail
    have unfolded : (Regex.row ((piece :: more).map Piece.regex)).attempts (decodeLossy text) =
        (piece.regex.attempts (decodeLossy text)).flatMap fun hit =>
          ((Regex.row (more.map Piece.regex)).attempts hit.rest).map hit.andThen := rfl
    rw [unfolded, scan]
    cases stepped : piece.step text with
    | none =>
      rw [Piece.attempts_of_none properHead stepped]
      rfl
    | some found =>
      obtain ⟨groups, rest⟩ := found
      obtain ⟨taken, shorter, attempts, left⟩ := Piece.attempts_of_some properHead stepped
      rw [attempts, List.flatMap_cons]
      cases more with
      | nil => simp [Regex.row, Regex.attempts, Hit.andThen, scan]
      | cons next others =>
        -- A shorter match of the piece leaves a character that the next piece cannot begin with.
        have stuck : (shorter.flatMap fun hit =>
            ((Regex.row ((next :: others).map Piece.regex)).attempts hit.rest).map hit.andThen) =
              [] := by
          rw [List.flatMap_eq_nil_iff]
          intro hit member
          obtain ⟨char, after, behind, prolonged⟩ := left hit member
          have other := Piece.begins_of_prolongs prolonged (proper next (by simp)) separated.rel
          rw [behind, List.map_cons, Regex.row, List.foldr_cons, Regex.attempts,
            Piece.attempts_of_begins other, List.flatMap_nil, List.map_nil]
        have later := congrArg (Option.map fun found => (groups.map chars ++ found.1, found.2))
          (ih rest)
        rw [stuck, List.append_nil, List.head?_map]
        simp only [Option.map_map] at later ⊢
        simpa [Function.comp_def, Hit.andThen] using later

end Marker

end Mosaic
