import Mathlib.Data.List.Chain
import Mathlib.Data.List.TakeWhile
import Mosaic.Worker

/-! The grammar of progress markers, stated apart from the scanner. A pattern is a row of pieces,
and the texts it spells are given by an inductive relation that also names the digit groups. The
scanner then finds exactly the text that its pattern spells at the front and that cannot be
prolonged. -/
namespace Mosaic.Marker

/-- One piece of a pattern: a run of digits, a run of white space, a colon, or a letter of which the
case does not matter. -/
inductive Piece where
  | digits
  | gap
  | colon
  | letter (lower : UInt8)
  deriving DecidableEq

namespace Piece

/-- The texts of a piece. Letters fold as in Unicode: beside its two cases an `s` may be the long s
and a `k` the Kelvin sign, both written in UTF-8. -/
inductive Spells : Piece → Bytes → Prop where
  | digits {text : Bytes} (nonempty : text ≠ []) (each : ∀ byte ∈ text, isDigit byte = true) :
      Spells .digits text
  | gap {text : Bytes} (nonempty : text ≠ []) (each : ∀ byte ∈ text, isGap byte = true) :
      Spells .gap text
  | colon : Spells .colon [58]
  | lowerCase (lower : UInt8) : Spells (.letter lower) [lower]
  | upperCase (lower : UInt8) : Spells (.letter lower) [lower - 32]
  | longS : Spells (.letter 0x73) [0xC5, 0xBF]
  | kelvin : Spells (.letter 0x6B) [0xE2, 0x84, 0xAA]

/-- Only runs of digits are numbers of a report. -/
def group : Piece → Bytes → List Bytes
  | .digits, text => [text]
  | _, _ => []

/-- Whether a byte after a text of the piece would belong to the piece as well. -/
def grows : Piece → UInt8 → Bool
  | .digits, byte => isDigit byte
  | .gap, byte => isGap byte
  | _, _ => false

/-- Letters are given by their lower-case ASCII form. -/
def isProper : Piece → Bool
  | .letter lower => 97 ≤ lower && lower ≤ 122
  | _ => true

/-- Two neighbours of which the first cannot run on into the second. -/
def separates : Piece → Piece → Bool
  | .digits, .digits => false
  | .gap, .gap => false
  | _, _ => true

/-- What the scanner takes off the front for one piece: its group, if any, and the rest. -/
def step : Piece → Bytes → Option (List Bytes × Bytes)
  | .digits, text => (digits? text).map fun found => ([found.1], found.2)
  | .gap, text => (gap? text).map fun rest => ([], rest)
  | .colon, text => (colon? text).map fun rest => ([], rest)
  | .letter lower, text => (letter? lower text).map fun rest => ([], rest)

end Piece

/-- The pieces spell the text, with these texts for the runs of digits. -/
inductive Spelled : List Piece → Bytes → List Bytes → Prop where
  | nil : Spelled [] [] []
  | cons {piece : Piece} {pieces : List Piece} {span text : Bytes} {groups : List Bytes}
      (head : piece.Spells span) (tail : Spelled pieces text groups) :
      Spelled (piece :: pieces) (span ++ text) (piece.group span ++ groups)

/-- What follows the pieces does not prolong the last of them. -/
def Stops (pieces : List Piece) (rest : Bytes) : Prop :=
  ∀ piece ∈ pieces.getLast?, ∀ byte ∈ rest.head?, piece.grows byte = false

/-- Takes pieces off the front one after the other. -/
def scan : List Piece → Bytes → Option (List Bytes × Bytes)
  | [], text => some ([], text)
  | piece :: more, text =>
    (piece.step text).bind fun first =>
      (scan more first.2).map fun others => (first.1 ++ others.1, others.2)

/-- A marker pattern. It begins with the hour of a clock, and no piece runs on into the next. -/
structure Pattern where
  pieces : List Piece
  proper : ∀ piece ∈ pieces, piece.isProper = true
  separated : pieces.IsChain (fun first second => first.separates second = true)
  front : pieces.head? = some .digits

namespace Pattern

/-- The whole text is a marker of the pattern. -/
def Matches (pattern : Pattern) (text : Bytes) : Prop :=
  ∃ groups, Spelled pattern.pieces text groups

/-- The pieces of `H:M:S` and the white space after it. -/
def clockPieces : List Piece := [.digits, .colon, .digits, .colon, .digits, .gap]

/-- `H:M:S Rendering line N of M`. -/
def render : Pattern where
  pieces := clockPieces ++ rendering.map .letter ++ [.gap] ++ line.map .letter ++
    [.gap, .digits, .gap] ++ of.map .letter ++ [.gap, .digits]
  proper := by decide
  separated := by decide
  front := by decide

/-- `H:M:S Parsing NK`. -/
def parse : Pattern where
  pieces := clockPieces ++ parsing.map .letter ++ [.gap, .digits, .letter 0x6B]
  proper := by decide
  separated := by decide
  front := by decide

end Pattern

/-! ## One piece -/

/-- Cutting a text where a class ends is the same as naming a run of the class that cannot be
prolonged. -/
theorem cut_iff (accepts : UInt8 → Bool) (text span rest : Bytes) :
    (text.takeWhile accepts = span ∧ text.dropWhile accepts = rest) ↔
      text = span ++ rest ∧ (∀ byte ∈ span, accepts byte = true) ∧
        ∀ byte ∈ rest.head?, accepts byte = false := by
  constructor
  · rintro ⟨rfl, rfl⟩
    refine ⟨List.takeWhile_append_dropWhile.symm, fun byte member => ?_, fun byte member => ?_⟩
    · exact List.mem_takeWhile_imp member
    · have stopped := List.head?_dropWhile_not accepts text
      rw [Option.mem_def.mp member] at stopped
      simpa using stopped
  · rintro ⟨rfl, inside, boundary⟩
    have stopped : rest.takeWhile accepts = [] ∧ rest.dropWhile accepts = rest := by
      cases rest with
      | nil => exact ⟨rfl, rfl⟩
      | cons byte tail =>
        have outside := boundary byte rfl
        simp [outside]
    rw [List.takeWhile_append_of_pos inside, List.dropWhile_append_of_pos inside, stopped.1,
      stopped.2, List.append_nil]
    exact ⟨rfl, rfl⟩

theorem digits?_iff (text span rest : Bytes) :
    digits? text = some (span, rest) ↔
      text = span ++ rest ∧ Piece.digits.Spells span ∧
        ∀ byte ∈ rest.head?, Piece.digits.grows byte = false := by
  have cut := cut_iff isDigit text span rest
  have found : digits? text = some (span, rest) ↔
      span ≠ [] ∧ text.takeWhile isDigit = span ∧ text.dropWhile isDigit = rest := by
    unfold digits?
    split
    · rename_i none
      simp only [none, reduceCtorEq, false_iff]
      rintro ⟨nonempty, rfl, -⟩
      exact nonempty rfl
    · rename_i digits nonempty
      constructor
      · intro same
        cases same
        exact ⟨nonempty, rfl, rfl⟩
      · rintro ⟨-, rfl, rfl⟩
        rfl
  rw [found, cut]
  constructor
  · rintro ⟨nonempty, same, inside, boundary⟩
    exact ⟨same, .digits nonempty inside, boundary⟩
  · rintro ⟨same, spelled, boundary⟩
    cases spelled with
    | digits nonempty inside => exact ⟨nonempty, same, inside, boundary⟩

theorem gap?_iff (text rest : Bytes) :
    gap? text = some rest ↔
      ∃ span, text = span ++ rest ∧ Piece.gap.Spells span ∧
        ∀ byte ∈ rest.head?, Piece.gap.grows byte = false := by
  have found : gap? text = some rest ↔
      text.takeWhile isGap ≠ [] ∧ text.dropWhile isGap = rest := by
    unfold gap?
    split
    · rename_i none
      simp [none]
    · rename_i nonempty
      simpa using fun _ => nonempty
  rw [found]
  constructor
  · rintro ⟨nonempty, same⟩
    obtain ⟨same, inside, boundary⟩ := (cut_iff isGap text _ rest).mp ⟨rfl, same⟩
    exact ⟨_, same, .gap nonempty inside, boundary⟩
  · rintro ⟨span, same, spelled, boundary⟩
    cases spelled with
    | gap nonempty inside =>
      obtain ⟨taken, left⟩ := (cut_iff isGap text span rest).mpr ⟨same, inside, boundary⟩
      exact ⟨taken ▸ nonempty, left⟩

theorem colon?_iff (text rest : Bytes) : colon? text = some rest ↔ text = 58 :: rest := by
  unfold colon?
  split <;> simp_all

/-- The two ASCII forms of a letter are not the first byte of one of the folded forms. -/
theorem letter?_ascii {lower byte : UInt8} (ascii : byte < 128)
    (folded : byte = lower ∨ byte + 32 = lower) (rest : Bytes) :
    letter? lower (byte :: rest) = some rest := by
  unfold letter?
  split
  · rename_i same
    rw [(List.cons.inj same).1] at ascii
    exact absurd ascii (by decide)
  · rename_i same
    rw [(List.cons.inj same).1] at ascii
    exact absurd ascii (by decide)
  · rename_i same
    obtain ⟨rfl, rfl⟩ := List.cons.inj same
    rw [if_pos (by simpa using folded)]
  · rename_i same
    cases same

/-- A letter is found in exactly the forms that it has. -/
theorem letter?_iff {lower : UInt8} (proper : (Piece.letter lower).isProper = true)
    (text rest : Bytes) :
    letter? lower text = some rest ↔
      ∃ span, text = span ++ rest ∧ (Piece.letter lower).Spells span := by
  simp only [Piece.isProper, Bool.and_eq_true, decide_eq_true_eq] at proper
  constructor
  · intro found
    unfold letter? at found
    split at found
    · rename_i rest'
      split at found
      · rename_i isS
        obtain rfl : lower = 0x73 := by simpa using isS
        cases found
        exact ⟨_, rfl, .longS⟩
      · cases found
    · rename_i rest'
      split at found
      · rename_i isK
        obtain rfl : lower = 0x6B := by simpa using isK
        cases found
        exact ⟨_, rfl, .kelvin⟩
      · cases found
    · rename_i byte rest' _ _
      split at found
      · rename_i folded
        cases found
        simp only [Bool.or_eq_true, beq_iff_eq] at folded
        obtain rfl | same := folded
        · exact ⟨[byte], rfl, .lowerCase byte⟩
        · refine ⟨[byte], rfl, ?_⟩
          have upper : byte = lower - 32 := by rw [← same]; simp
          rw [upper]
          exact .upperCase lower
      · cases found
    · cases found
  · rintro ⟨span, rfl, spelled⟩
    cases spelled with
    | lowerCase => exact letter?_ascii (by grind) (.inl rfl) rest
    | upperCase => exact letter?_ascii (by grind) (.inr (by simp)) rest
    | longS => rfl
    | kelvin => rfl

namespace Piece

/-- One step of the scanner takes off exactly a text of its piece that cannot be prolonged. -/
theorem step_iff {piece : Piece} (proper : piece.isProper = true) (text rest : Bytes)
    (groups : List Bytes) :
    piece.step text = some (groups, rest) ↔
      ∃ span, text = span ++ rest ∧ piece.Spells span ∧ groups = piece.group span ∧
        ∀ byte ∈ rest.head?, piece.grows byte = false := by
  cases piece with
  | digits =>
    simp only [step, Option.map_eq_some_iff, Prod.exists, Prod.mk.injEq, group]
    constructor
    · rintro ⟨span, rest', found, rfl, rfl⟩
      obtain ⟨same, spelled, boundary⟩ := (digits?_iff text span rest').mp found
      exact ⟨span, same, spelled, rfl, boundary⟩
    · rintro ⟨span, same, spelled, rfl, boundary⟩
      exact ⟨span, rest, (digits?_iff text span rest).mpr ⟨same, spelled, boundary⟩, rfl, rfl⟩
  | gap =>
    simp only [step, Option.map_eq_some_iff, Prod.mk.injEq, group]
    constructor
    · rintro ⟨rest', found, rfl, rfl⟩
      obtain ⟨span, same, spelled, boundary⟩ := (gap?_iff text rest').mp found
      exact ⟨span, same, spelled, rfl, boundary⟩
    · rintro ⟨span, same, spelled, rfl, boundary⟩
      exact ⟨rest, (gap?_iff text rest).mpr ⟨span, same, spelled, boundary⟩, rfl, rfl⟩
  | colon =>
    simp only [step, Option.map_eq_some_iff, Prod.mk.injEq, group, colon?_iff, grows]
    constructor
    · rintro ⟨rest', rfl, rfl, rfl⟩
      exact ⟨[58], rfl, .colon, rfl, fun _ _ => trivial⟩
    · rintro ⟨span, same, spelled, rfl, -⟩
      cases spelled
      exact ⟨rest, same, rfl, rfl⟩
  | letter lower =>
    simp only [step, Option.map_eq_some_iff, Prod.mk.injEq, group, letter?_iff proper, grows]
    constructor
    · rintro ⟨rest', ⟨span, same, spelled⟩, rfl, rfl⟩
      exact ⟨span, same, spelled, rfl, fun _ _ => trivial⟩
    · rintro ⟨span, same, spelled, rfl, -⟩
      exact ⟨rest, ⟨span, same, spelled⟩, rfl, rfl⟩

theorem Spells.ne_nil {piece : Piece} {span : Bytes} (spelled : piece.Spells span) : span ≠ [] := by
  cases spelled with
  | digits nonempty _ => exact nonempty
  | gap nonempty _ => exact nonempty
  | colon => simp
  | lowerCase => simp
  | upperCase => simp
  | longS => simp
  | kelvin => simp

/-- A byte of neither class prolongs nothing. -/
theorem grows_eq_false {byte : UInt8} (noDigit : isDigit byte = false) (noGap : isGap byte = false)
    (piece : Piece) : piece.grows byte = false := by
  cases piece with
  | digits => exact noDigit
  | gap => exact noGap
  | colon => rfl
  | letter => rfl

theorem digit_not_gap {byte : UInt8} (digit : isDigit byte = true) : isGap byte = false := by
  simp only [isDigit, isGap, Bool.and_eq_true, decide_eq_true_eq, Bool.or_eq_false_iff,
    beq_eq_false_iff_ne] at digit ⊢
  grind

/-- No text of the second of two separated pieces prolongs a text of the first. -/
theorem Spells.boundary {first second : Piece} {span : Bytes} (spelled : second.Spells span)
    (proper : second.isProper = true) (separated : first.separates second = true) :
    ∀ byte ∈ span.head?, first.grows byte = false := by
  intro byte member
  cases spelled with
  | digits nonempty each =>
    have digit := each byte (List.mem_of_mem_head? member)
    cases first with
    | digits => cases separated
    | gap => exact digit_not_gap digit
    | colon => rfl
    | letter => rfl
  | gap nonempty each =>
    have blank := each byte (List.mem_of_mem_head? member)
    cases first with
    | digits =>
      by_contra digit
      rw [digit_not_gap (by simpa [grows] using digit)] at blank
      cases blank
    | gap => cases separated
    | colon => rfl
    | letter => rfl
  | colon =>
    cases member
    exact grows_eq_false (by decide) (by decide) first
  | lowerCase lower =>
    cases member
    simp only [isProper, Bool.and_eq_true, decide_eq_true_eq] at proper
    refine grows_eq_false ?_ ?_ first
    · simp only [isDigit, Bool.and_eq_false_iff, decide_eq_false_iff_not]
      grind
    · simp only [isGap, Bool.or_eq_false_iff, beq_eq_false_iff_ne]
      grind
  | upperCase lower =>
    cases member
    simp only [isProper, Bool.and_eq_true, decide_eq_true_eq] at proper
    refine grows_eq_false ?_ ?_ first
    · simp only [isDigit, Bool.and_eq_false_iff, decide_eq_false_iff_not]
      grind
    · simp only [isGap, Bool.or_eq_false_iff, beq_eq_false_iff_ne]
      grind
  | longS =>
    cases member
    exact grows_eq_false (by decide) (by decide) first
  | kelvin =>
    cases member
    exact grows_eq_false (by decide) (by decide) first

end Piece

/-! ## A row of pieces -/

/-- The scanner takes off exactly a text that the pieces spell and that cannot be prolonged. Since
no piece runs on into its neighbour, there is only one way to cut such a text. -/
theorem scan_iff {pieces : List Piece} (proper : ∀ piece ∈ pieces, piece.isProper = true)
    (separated : pieces.IsChain (fun first second => first.separates second = true))
    (text rest : Bytes) (groups : List Bytes) :
    scan pieces text = some (groups, rest) ↔
      ∃ marked, text = marked ++ rest ∧ Spelled pieces marked groups ∧ Stops pieces rest := by
  induction pieces generalizing text groups with
  | nil =>
    simp only [scan, Option.some.injEq, Prod.mk.injEq]
    constructor
    · rintro ⟨rfl, rfl⟩
      exact ⟨[], rfl, .nil, by simp [Stops]⟩
    · rintro ⟨marked, rfl, spelled, -⟩
      cases spelled
      exact ⟨rfl, rfl⟩
  | cons piece more ih =>
    have properHead := proper piece (by simp)
    have ih := ih (fun other member => proper other (by simp [member])) separated.tail
    simp only [scan, Option.bind_eq_some_iff, Option.map_eq_some_iff, Prod.exists, Prod.mk.injEq]
    constructor
    · rintro ⟨group, middle, stepped, groups', rest', scanned, rfl, rfl⟩
      obtain ⟨span, rfl, spelled, rfl, boundary⟩ := (Piece.step_iff properHead ..).mp stepped
      obtain ⟨marked, rfl, tail, stops⟩ := (ih ..).mp scanned
      refine ⟨span ++ marked, by simp, .cons spelled tail, ?_⟩
      cases more with
      | nil =>
        cases tail
        simpa [Stops] using boundary
      | cons next others => simpa [Stops] using stops
    · rintro ⟨marked, rfl, spelled, stops⟩
      cases spelled with
      | @cons _ _ span text groups head tail =>
        refine ⟨piece.group span, text ++ rest, ?_, groups, rest, ?_, rfl, rfl⟩
        · refine (Piece.step_iff properHead ..).mpr ⟨span, by simp, head, rfl, ?_⟩
          cases tail with
          | nil => simpa [Stops] using stops
          | @cons next _ nextSpan _ _ nextHead _ =>
            -- The rest begins with a text of the next piece, which does not prolong this one.
            have boundary := nextHead.boundary (proper next (by simp)) separated.rel
            rw [List.append_assoc, List.head?_append_of_ne_nil _ nextHead.ne_nil]
            exact boundary
        · refine (ih ..).mpr ⟨text, rfl, tail, ?_⟩
          cases more with
          | nil => simp [Stops]
          | cons next others => simpa [Stops] using stops

/-- Whether a whole text is a marker can be decided by scanning it. -/
theorem Pattern.matches_iff (pattern : Pattern) (text : Bytes) :
    pattern.Matches text ↔ ∃ groups, scan pattern.pieces text = some (groups, []) := by
  simp only [scan_iff pattern.proper pattern.separated, List.append_nil]
  constructor
  · rintro ⟨groups, spelled⟩
    exact ⟨groups, text, rfl, spelled, by simp [Stops]⟩
  · rintro ⟨groups, marked, rfl, spelled, -⟩
    exact ⟨groups, spelled⟩

instance (pattern : Pattern) (text : Bytes) : Decidable (pattern.Matches text) :=
  decidable_of_iff ((scan pattern.pieces text).any (·.2.isEmpty) = true) (by
    rw [pattern.matches_iff]
    cases scan pattern.pieces text <;> simp [Prod.ext_iff])

theorem scan_append (first second : List Piece) (text : Bytes) :
    scan (first ++ second) text =
      (scan first text).bind fun found =>
        (scan second found.2).map fun others => (found.1 ++ others.1, others.2) := by
  induction first generalizing text with
  | nil => simp [scan]
  | cons piece more ih =>
    simp only [List.cons_append, scan, ih, Option.bind_assoc, Option.map_bind, Option.bind_map,
      Option.map_map, Function.comp_def, List.append_assoc]

/-- A word is a row of letters. -/
theorem scan_word (letters text : Bytes) :
    scan (letters.map .letter) text = (word? letters text).map fun rest => ([], rest) := by
  induction letters generalizing text with
  | nil => rfl
  | cons lower more ih =>
    cases found : letter? lower text with
    | none => simp [scan, Piece.step, word?, found]
    | some rest =>
      have tail := ih rest
      simp only [word?] at tail
      simp [scan, Piece.step, word?, found, tail, Function.comp_def]

/-! ## The two patterns -/

/-- A render report from the numbers of its marker. -/
def renderReport : List Bytes → RenderReport
  | [hour, min, sec, done, total] =>
    { elapsed := { hour := value hour, min := value min, sec := value sec }
      line := value done
      total := value total }
  | _ => {}

/-- A parse report from the numbers of its marker. -/
def parseReport : List Bytes → ParseReport
  | [hour, min, sec, kilobytes] =>
    { elapsed := { hour := value hour, min := value min, sec := value sec }
      kilobytes := value kilobytes }
  | _ => {}

/-- A reader of markers scans for a pattern and makes a report of the groups. -/
def Reads {α : Type} (marker? : Bytes → Option (α × Bytes)) (pattern : Pattern)
    (report : List Bytes → α) : Prop :=
  ∀ text, marker? text = (scan pattern.pieces text).map fun found => (report found.1, found.2)

/-- Scans for pieces and makes something of the groups. -/
def collect {α : Type} (finish : List Bytes → α) (pieces : List Piece) (text : Bytes) :
    Option (α × Bytes) :=
  (scan pieces text).map fun found => (finish found.1, found.2)

section Collect
variable {α : Type} (finish : List Bytes → α) (more : List Piece)

theorem collect_nil : collect finish [] = fun text => some (finish [], text) := rfl

theorem collect_digits :
    collect finish (.digits :: more) = fun text =>
      (digits? text).bind fun found =>
        collect (fun groups => finish (found.1 :: groups)) more found.2 := by
  funext text
  simp only [collect, scan, Piece.step, Option.map_bind, Option.bind_map, Option.map_map,
    Function.comp_def, List.singleton_append]

theorem collect_silent {piece : Piece} {skip : Bytes → Option Bytes}
    (silent : ∀ text, piece.step text = (skip text).map fun rest => ([], rest)) :
    collect finish (piece :: more) = fun text => (skip text).bind (collect finish more) := by
  funext text
  simp only [collect, scan, silent, Option.map_bind, Option.bind_map, Option.map_map,
    Function.comp_def, List.nil_append]
  rfl

theorem collect_gap :
    collect finish (.gap :: more) = fun text => (gap? text).bind (collect finish more) :=
  collect_silent finish more fun _ => rfl

theorem collect_colon :
    collect finish (.colon :: more) = fun text => (colon? text).bind (collect finish more) :=
  collect_silent finish more fun _ => rfl

theorem collect_letter (lower : UInt8) :
    collect finish (.letter lower :: more) = fun text =>
      (letter? lower text).bind (collect finish more) :=
  collect_silent finish more fun _ => rfl

theorem collect_word (letters : Bytes) :
    collect finish (letters.map .letter ++ more) = fun text =>
      (word? letters text).bind (collect finish more) := by
  funext text
  simp only [collect, scan_append, scan_word, Option.map_bind, Option.bind_map, Option.map_map,
    Function.comp_def, List.nil_append]
  rfl

end Collect

theorem render_reads : Reads render? .render renderReport := by
  intro text
  change _ = collect renderReport Pattern.render.pieces text
  simp only [Pattern.render, Pattern.clockPieces, List.append_assoc, List.cons_append,
    List.nil_append, collect_word, collect_gap, collect_colon, collect_digits, collect_nil, render?,
    clock?, Option.bind_eq_bind, Option.bind_assoc, Option.bind_some, Option.pure_def]
  rfl

theorem parse_reads : Reads parse? .parse parseReport := by
  intro text
  change _ = collect parseReport Pattern.parse.pieces text
  simp only [Pattern.parse, Pattern.clockPieces, List.cons_append, List.nil_append, collect_word,
    collect_gap, collect_colon, collect_digits, collect_letter, collect_nil, parse?, clock?,
    Option.bind_eq_bind, Option.bind_assoc, Option.bind_some, Option.pure_def]
  rfl

end Mosaic.Marker
