import Mathlib.Data.Nat.Digits.Defs
import Mosaic.Proofs.MarkerExpression
import Mosaic.Proofs.MarkerSearch

/-! The reports of a text are the numbers of the last match of each expression among the leftmost
matches that do not overlap. The search of bytes and the search of characters go hand in hand: where
no marker begins, both pass over a whole character. -/
namespace Mosaic
open Text

namespace Marker

section Searching
variable {α : Type} {marker? : Bytes → Option (α × Bytes)} {pattern : Pattern}
  {report : List Bytes → α}

/-- The groups themselves are the simplest report. -/
theorem scan_reads (pattern : Pattern) : Reads (scan pattern.pieces) pattern id := by
  intro text
  simp

theorem Reads.all_skip (reads : Reads marker? pattern report) {segment : Bytes}
    (others : ∀ byte ∈ segment, isDigit byte = false) (rest : Bytes) :
    all marker? (segment ++ rest) = all marker? rest := by
  induction segment with
  | nil => rfl
  | cons byte more ih =>
    have absent := reads.none_at_other (others byte (by simp)) (more ++ rest)
    rw [List.cons_append, all_of_none absent]
    exact ih fun other member => others other (by simp [member])

/-- A reader reports on the groups that the search for its pattern finds. -/
theorem Reads.all_eq (reads : Reads marker? pattern report) (text : Bytes) :
    all marker? text = (all (scan pattern.pieces) text).map report := by
  induction size : text.length using Nat.strong_induction_on generalizing text with
  | _ size ih =>
    subst size
    cases text with
    | nil => simp [all]
    | cons byte rest =>
      have read := reads (byte :: rest)
      cases found : scan pattern.pieces (byte :: rest) with
      | none =>
        rw [found] at read
        rw [all_of_none read, all_of_none found]
        exact ih rest.length (by simp) rest rfl
      | some result =>
        obtain ⟨groups, after⟩ := result
        rw [found] at read
        rw [reads.all_of_some read, (scan_reads pattern).all_of_some found, List.map_cons,
          ih after.length (reads.shortens read) after rfl]

end Searching

/-- A match of a pattern's expression begins exactly where the scanner finds a marker. -/
theorem Pattern.begins_iff (pattern : Pattern) (text : Bytes) :
    pattern.regex.Begins (decodeLossy text) ↔ scan pattern.pieces text ≠ none := by
  have row := attempts_row pattern.proper pattern.separated text
  have none : (pattern.regex.attempts (decodeLossy text)).head? = none ↔
      scan pattern.pieces text = none := by
    rw [Pattern.regex, ← Option.map_eq_none_iff, row, Option.map_eq_none_iff]
  rw [Regex.begins_iff, ne_eq, ← List.head?_eq_none_iff, none]

/-- The matches of a pattern's expression in the characters of a text are the markers that the search
of its bytes finds. -/
theorem Pattern.finds_all (pattern : Pattern) (text : Bytes) :
    pattern.regex.Finds (decodeLossy text)
      ((all (scan pattern.pieces) text).map (List.map chars)) := by
  -- The search jumps over whole markers, so the induction is on the length of what is left.
  induction size : text.length using Nat.strong_induction_on generalizing text with
  | _ size ih =>
    subst size
    by_cases empty : text = []
    · subst empty
      have nothing : scan pattern.pieces [] = none := by
        by_contra something
        obtain ⟨found, scanned⟩ := Option.ne_none_iff_exists'.mp something
        obtain ⟨marked, same, spelled, -⟩ :=
          (scan_iff pattern.proper pattern.separated [] found.2 found.1).mp scanned
        obtain ⟨digit, others, rfl, -⟩ := pattern.begins_with_digit spelled
        cases same
      have absent := (pattern.begins_iff []).not.mpr (by simp [nothing])
      rw [decodeLossy, segments, List.map_nil] at absent ⊢
      simp only [all, List.map_nil]
      refine .none fun rest suffix => ?_
      rw [List.suffix_nil.mp suffix]
      exact absent
    · cases found : scan pattern.pieces text with
      | some result =>
        obtain ⟨groups, after⟩ := result
        have row := attempts_row pattern.proper pattern.separated text
        rw [found, Option.map_some, Option.map_eq_some_iff] at row
        obtain ⟨hit, first, same⟩ := row
        obtain ⟨sameGroups, sameRest⟩ := Prod.mk.inj same
        have later := ih after.length ((scan_reads pattern).shortens found) after rfl
        rw [← sameRest] at later
        rw [(scan_reads pattern).all_of_some found, List.map_cons, ← sameGroups]
        refine @Regex.Finds.next _ [] _ hit _ (fun front back split nonempty => ?_) first later
        exact absurd (List.append_eq_nil_iff.mp split.symm).2 nonempty
      | none =>
        have absent : ¬ pattern.regex.Begins (decodeLossy text) := by
          rw [pattern.begins_iff, found]
          simp
        obtain ⟨char, rest, first, decoded⟩ := decodeLossy_first empty
        rw [decoded] at absent ⊢
        rcases first.ascii_or_high with ⟨byte, rfl, -, -⟩ | ⟨segment, rfl, nonempty, high, -⟩
        · rw [all_of_none found]
          exact .skip absent (ih rest.length (by simp) rest rfl)
        · rw [(scan_reads pattern).all_skip fun byte member =>
            digit_agrees.highByte byte (high byte member)]
          have shorter : rest.length < (segment ++ rest).length := by
            have length := List.length_pos_of_ne_nil nonempty
            simp only [List.length_append]
            omega
          exact .skip absent (ih rest.length shorter rest rfl)

/-! ## The numbers -/

/-- The number that digits mean. -/
def decimalOf (digits : List Char) : Nat :=
  Nat.ofDigits 10 (digits.reverse.map fun digit => digit.toNat - 48)

/-- What is read of a number: zero if it is greater than a machine integer can be. -/
def amount (digits : List Char) : Int :=
  if decimalOf digits < valueLimit then decimalOf digits else 0

theorem decimalOf_concat (digits : List Char) (last : Char) :
    decimalOf (digits ++ [last]) = decimalOf digits * 10 + (last.toNat - 48) := by
  rw [decimalOf, decimalOf, List.reverse_concat, List.map_cons, Nat.ofDigits_cons, Nat.mul_comm,
    Nat.add_comm]

/-- Counting stops at the limit, and below it is exact. -/
theorem counting_exact (digits : Bytes) (each : ∀ byte ∈ digits, isDigit byte = true) :
    let n := digits.foldl
      (fun sum byte => if sum < valueLimit then sum * 10 + (byte.toNat - 48) else sum) 0
    (decimalOf (chars digits) < valueLimit → n = decimalOf (chars digits)) ∧
      (valueLimit ≤ decimalOf (chars digits) → valueLimit ≤ n) := by
  induction digits using List.reverseRecOn with
  | nil => simp [chars, decimalOf]
  | append_singleton front last ih =>
    have ih := ih fun byte member => each byte (by simp [member])
    have low := UInt8.lt_iff_toNat_lt.mp (digit_agrees.low (each last (by simp)))
    simp only [UInt8.reduceToNat] at low
    have code : (Char.ofNat last.toNat).toNat = last.toNat :=
      ofNat_toNat_of_valid (.inl (by omega))
    have longer : decimalOf (chars (front ++ [last])) =
        decimalOf (chars front) * 10 + (last.toNat - 48) := by
      rw [chars, List.map_append, List.map_singleton, decimalOf_concat, code]
      rfl
    intro n
    simp only [n, longer, List.foldl_append, List.foldl_cons, List.foldl_nil] at ih ⊢
    split <;> omega

theorem value_toInt (digits : Bytes) (each : ∀ byte ∈ digits, isDigit byte = true) :
    (value digits).toInt = amount (chars digits) := by
  have exact := counting_exact digits each
  simp only at exact
  unfold value amount
  by_cases fits : decimalOf (chars digits) < valueLimit
  · rw [exact.1 fits]
    simp only [fits, if_true]
    exact Int64.toInt_ofNat_of_lt fits
  · have beyond := exact.2 (by omega)
    simp only [fits, if_false]
    rw [if_neg (by omega)]
    rfl

/-- The groups of a text that pieces spell are runs of digits, one for each such piece. -/
theorem Spelled.groups_digits {pieces : List Piece} {text : Bytes} {groups : List Bytes}
    (spelled : Spelled pieces text groups) :
    groups.length = pieces.count .digits ∧
      ∀ group ∈ groups, ∀ byte ∈ group, isDigit byte = true := by
  induction spelled with
  | nil => simp
  | @cons piece pieces span text groups head tail ih =>
    cases head with
    | digits nonempty each =>
      simp only [Piece.group, List.singleton_append, List.length_cons, List.count_cons_self, ih.1,
        List.forall_mem_cons, true_and]
      exact ⟨each, ih.2⟩
    | _ => simpa [Piece.group] using ih

end Marker

/-- The numbers of a report in the order in which its marker gives them. -/
def RenderReport.numbers (report : RenderReport) : List Int :=
  [report.elapsed.hour.toInt, report.elapsed.min.toInt, report.elapsed.sec.toInt,
    report.line.toInt, report.total.toInt]

/-- The numbers of a report in the order in which its marker gives them. -/
def ParseReport.numbers (report : ParseReport) : List Int :=
  [report.elapsed.hour.toInt, report.elapsed.min.toInt, report.elapsed.sec.toInt,
    report.kilobytes.toInt]

open Marker

theorem render_numbers {groups : List Bytes} (count : groups.length = 5)
    (digits : ∀ group ∈ groups, ∀ byte ∈ group, isDigit byte = true) :
    (renderReport groups).numbers = (groups.map chars).map amount := by
  obtain ⟨hour, min, sec, done, total, rfl⟩ :
      ∃ hour min sec done total, groups = [hour, min, sec, done, total] := by
    rcases groups with _ | ⟨_, _ | ⟨_, _ | ⟨_, _ | ⟨_, _ | ⟨_, _ | ⟨_, _⟩⟩⟩⟩⟩⟩ <;> simp at count ⊢
  simp only [List.forall_mem_cons] at digits
  obtain ⟨hours, mins, secs, dones, totals, -⟩ := digits
  simp only [renderReport, RenderReport.numbers, List.map_cons, List.map_nil, value_toInt _ hours,
    value_toInt _ mins, value_toInt _ secs, value_toInt _ dones, value_toInt _ totals]

theorem parse_numbers {groups : List Bytes} (count : groups.length = 4)
    (digits : ∀ group ∈ groups, ∀ byte ∈ group, isDigit byte = true) :
    (parseReport groups).numbers = (groups.map chars).map amount := by
  obtain ⟨hour, min, sec, kilobytes, rfl⟩ :
      ∃ hour min sec kilobytes, groups = [hour, min, sec, kilobytes] := by
    rcases groups with _ | ⟨_, _ | ⟨_, _ | ⟨_, _ | ⟨_, _ | ⟨_, _⟩⟩⟩⟩⟩ <;> simp at count ⊢
  simp only [List.forall_mem_cons] at digits
  obtain ⟨hours, mins, secs, sizes, -⟩ := digits
  simp only [parseReport, ParseReport.numbers, List.map_cons, List.map_nil, value_toInt _ hours,
    value_toInt _ mins, value_toInt _ secs, value_toInt _ sizes]

section Reporting
variable {α : Type} {marker? : Bytes → Option (α × Bytes)} {pattern : Pattern}
  {report : List Bytes → α}

/-- What a text reports is what the last match of the pattern's expression says. -/
theorem last_match (reads : Reads marker? pattern report) (numbers : α → List Int)
    (reported : ∀ groups, groups.length = pattern.pieces.count .digits →
      (∀ group ∈ groups, ∀ byte ∈ group, isDigit byte = true) →
      numbers (report groups) = (groups.map chars).map amount)
    (text : Bytes) (held : α) :
    ∃ found, (∀ others, pattern.regex.Finds (decodeLossy text) others ↔ others = found) ∧
      (found = [] → (all marker? text).getLast?.getD held = held) ∧
      ∀ groups ∈ found.getLast?,
        numbers ((all marker? text).getLast?.getD held) = groups.map amount := by
  have finds := pattern.finds_all text
  refine ⟨_, fun others => ⟨fun also => also.unique finds, fun same => same ▸ finds⟩, ?_, ?_⟩
  · intro nothing
    rw [reads.all_eq, List.map_eq_nil_iff.mp nothing]
    rfl
  · intro groups last
    rw [List.getLast?_map] at last
    obtain ⟨found, lastFound, rfl⟩ := Option.map_eq_some_iff.mp last
    obtain ⟨_, ⟨front, marked, rest, -, spelled, -, -⟩, rfl⟩ :=
      (scan_reads pattern).whole_of_mem (List.mem_of_getLast? lastFound)
    rw [reads.all_eq, List.getLast?_map, lastFound]
    exact reported _ spelled.groups_digits.1 spelled.groups_digits.2

end Reporting

/-- A text brings a tile the numbers of the last match of each expression in its characters. Without
a match the report stays as it is; a number that is too great counts as zero, whatever the others
are; and nothing else of the tile changes. -/
theorem advance_follows_expressions (tile : Tile) (text : Bytes) :
    let after := tile.advance text
    ∃ renders parses,
      (∀ found, renderRegex.Finds (decodeLossy text) found ↔ found = renders) ∧
      (∀ found, parseRegex.Finds (decodeLossy text) found ↔ found = parses) ∧
      (renders = [] → after.render = tile.render) ∧
      (∀ groups ∈ renders.getLast?, after.render.numbers = groups.map amount) ∧
      (parses = [] → after.parse = tile.parse) ∧
      (∀ groups ∈ parses.getLast?, after.parse.numbers = groups.map amount) ∧
      after = { tile with render := after.render, parse := after.parse } := by
  intro after
  obtain ⟨renders, renderFinds, renderNone, renderLast⟩ := last_match render_reads
    RenderReport.numbers (fun _ count digits => render_numbers count digits) text tile.render
  obtain ⟨parses, parseFinds, parseNone, parseLast⟩ := last_match parse_reads
    ParseReport.numbers (fun _ count digits => parse_numbers count digits) text tile.parse
  rw [render_regex] at renderFinds
  rw [parse_regex] at parseFinds
  exact ⟨renders, parses, renderFinds, parseFinds, renderNone, renderLast, parseNone, parseLast, rfl⟩

-- A long s, a Kelvin sign and a number that is too great.
example :
    let text := Bytes.ofString "7:0:9223372036854775808 PAR\u017fing\n12\u212a"
    (({} : Tile).advance text).parse.numbers = [7, 0, 0, 12] := by decide +kernel

end Mosaic
