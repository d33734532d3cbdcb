import Mathlib.Data.List.Infix
import Mosaic.Proofs.MarkerGrammar

/-! The search for markers from left to right. More text never makes a found marker disappear, and
where no marker reaches over a line break the search of a text is the search of its lines one after
the other. Both are what makes it safe to read a stream piece by piece. Every marker that is found is
a whole one: neither its first nor its last number goes on beyond it. -/
namespace Mosaic.Marker

/-- No marker of the pattern anywhere in the text holds a line break. -/
def Pattern.Unbroken (pattern : Pattern) (text : Bytes) : Prop :=
  ∀ marked, marked <:+: text → pattern.Matches marked → ∀ byte ∈ marked, isLineBreak byte = false

theorem Pattern.Unbroken.of_infix {pattern : Pattern} {part whole : Bytes}
    (unbroken : pattern.Unbroken whole) (inside : part <:+: whole) : pattern.Unbroken part :=
  fun marked within => unbroken marked (within.trans inside)

instance (pattern : Pattern) (text : Bytes) : Decidable (pattern.Unbroken text) :=
  decidable_of_iff (text.tails.all (fun rest => rest.inits.all fun marked =>
      !decide (pattern.Matches marked) || marked.all (!isLineBreak ·)) = true) (by
    simp only [List.all_eq_true, List.mem_tails, List.mem_inits, Bool.or_eq_true,
      Bool.not_eq_true', decide_eq_false_iff_not, ← imp_iff_not_or, Pattern.Unbroken]
    constructor
    · intro each marked inside
      obtain ⟨rest, front, back⟩ := List.infix_iff_prefix_suffix.mp inside
      exact each rest back marked front
    · intro each rest back marked front
      exact each marked (front.isInfix.trans back.isInfix))

/-! ## A marker at the front -/

/-- A marker begins with a digit. -/
theorem Pattern.begins_with_digit (pattern : Pattern) {text : Bytes} {groups : List Bytes}
    (spelled : Spelled pattern.pieces text groups) :
    ∃ byte rest, text = byte :: rest ∧ isDigit byte = true := by
  obtain ⟨more, shape⟩ := List.head?_eq_some_iff.mp pattern.front
  rw [shape] at spelled
  cases spelled with
  | @cons _ _ span text _ head tail =>
    cases head with
    | digits nonempty each =>
      obtain ⟨byte, rest, rfl⟩ := List.exists_cons_of_ne_nil nonempty
      exact ⟨byte, rest ++ text, rfl, each byte (by simp)⟩

theorem line_break_ends_digits {byte : UInt8} (breaks : isLineBreak byte = true) :
    isDigit byte = false := by
  simp only [isLineBreak, Bool.or_eq_true, beq_iff_eq] at breaks
  rcases breaks with rfl | rfl <;> rfl

/-- Whether a text prolongs the pieces is decided by its first byte. -/
theorem Stops.of_append {pieces : List Piece} {before after : Bytes}
    (stops : Stops pieces (before ++ after)) : Stops pieces before := by
  intro piece last byte first
  apply stops piece last byte
  cases before with
  | nil => cases first
  | cons => exact first

/-- Bytes that belong to a piece may be added to its text. -/
theorem Piece.Spells.prolonged {piece : Piece} {span extra : Bytes} (spelled : piece.Spells span)
    (grown : ∀ byte ∈ extra, piece.grows byte = true) : piece.Spells (span ++ extra) := by
  cases piece with
  | digits =>
    cases spelled with
    | digits nonempty each =>
      refine .digits (by simp [nonempty]) fun byte member => ?_
      rcases List.mem_append.mp member with before | after
      · exact each byte before
      · exact grown byte after
  | gap =>
    cases spelled with
    | gap nonempty each =>
      refine .gap (by simp [nonempty]) fun byte member => ?_
      rcases List.mem_append.mp member with before | after
      · exact each byte before
      · exact grown byte after
  | colon =>
    cases extra with
    | nil => simpa using spelled
    | cons byte => cases grown byte (by simp)
  | letter =>
    cases extra with
    | nil => simpa using spelled
    | cons byte => cases grown byte (by simp)

/-- A marker at the front of a text stays one when more text arrives; only its last number may have
become longer. -/
theorem Spelled.prolonged {pieces : List Piece} {text : Bytes} {groups : List Bytes}
    (spelled : Spelled pieces text groups) (more : Bytes) :
    ∃ marked rest groups, text ++ more = marked ++ rest ∧ Spelled pieces marked groups ∧
      Stops pieces rest := by
  induction spelled with
  | nil => exact ⟨[], more, [], rfl, .nil, by simp [Stops]⟩
  | @cons piece pieces span text groups head tail ih =>
    cases tail with
    | nil =>
      obtain ⟨same, inside, boundary⟩ := (cut_iff piece.grows more _ _).mp ⟨rfl, rfl⟩
      refine ⟨span ++ more.takeWhile piece.grows ++ [], more.dropWhile piece.grows, _, ?_,
        .cons (head.prolonged inside) .nil, ?_⟩
      · simp
      · simpa [Stops] using boundary
    | @cons next others nextSpan rest _ nextHead nextTail =>
      obtain ⟨marked, after, groups, same, spelled, stops⟩ := ih
      refine ⟨span ++ marked, after, _, ?_, .cons head spelled, ?_⟩
      · rw [List.append_assoc, same, List.append_assoc]
      · simpa [Stops] using stops

section Reading
variable {α : Type} {marker? : Bytes → Option (α × Bytes)} {pattern : Pattern}
  {report : List Bytes → α}

/-- A reader reports exactly a text of its pattern that cannot be prolonged. -/
theorem Reads.some_iff (reads : Reads marker? pattern report) (text rest : Bytes) (found : α) :
    marker? text = some (found, rest) ↔
      ∃ marked groups, text = marked ++ rest ∧ Spelled pattern.pieces marked groups ∧
        Stops pattern.pieces rest ∧ report groups = found := by
  rw [reads text, Option.map_eq_some_iff]
  constructor
  · rintro ⟨⟨groups, rest'⟩, scanned, same⟩
    cases same
    obtain ⟨marked, split, spelled, stops⟩ :=
      (scan_iff pattern.proper pattern.separated ..).mp scanned
    exact ⟨marked, groups, split, spelled, stops, rfl⟩
  · rintro ⟨marked, groups, split, spelled, stops, rfl⟩
    exact ⟨(groups, rest), (scan_iff pattern.proper pattern.separated ..).mpr
      ⟨marked, split, spelled, stops⟩, rfl⟩

/-- A marker takes something off the front. -/
theorem Reads.shortens (reads : Reads marker? pattern report) {text rest : Bytes} {found : α}
    (read : marker? text = some (found, rest)) : rest.length < text.length := by
  obtain ⟨marked, groups, rfl, spelled, -, -⟩ := (reads.some_iff _ _ _).mp read
  obtain ⟨digit, others, rfl, -⟩ := pattern.begins_with_digit spelled
  simp only [List.length_append, List.length_cons]
  omega

/-- No marker begins with a byte that is no digit. -/
theorem Reads.none_at_other (reads : Reads marker? pattern report) {byte : UInt8}
    (other : isDigit byte = false) (rest : Bytes) : marker? (byte :: rest) = none := by
  cases found : marker? (byte :: rest) with
  | none => rfl
  | some result =>
    obtain ⟨marked, groups, same, spelled, -, -⟩ := (reads.some_iff _ result.2 result.1).mp found
    obtain ⟨first, after, begins, digit⟩ := pattern.begins_with_digit spelled
    rw [begins] at same
    cases same
    rw [other] at digit
    cases digit

theorem Reads.none_at_break (reads : Reads marker? pattern report) {byte : UInt8}
    (breaks : isLineBreak byte = true) (rest : Bytes) : marker? (byte :: rest) = none :=
  reads.none_at_other (line_break_ends_digits breaks) rest

/-- A marker at the front does not disappear when more text arrives. -/
theorem Reads.isSome_append (reads : Reads marker? pattern report) {text : Bytes}
    (found : (marker? text).isSome) (more : Bytes) : (marker? (text ++ more)).isSome := by
  obtain ⟨⟨result, rest⟩, found⟩ := Option.isSome_iff_exists.mp found
  obtain ⟨marked, groups, rfl, spelled, -, -⟩ := (reads.some_iff _ _ _).mp found
  obtain ⟨longer, after, groups, same, spelled, stops⟩ := spelled.prolonged (rest ++ more)
  rw [List.append_assoc, (reads.some_iff _ after (report groups)).mpr
    ⟨longer, groups, same, spelled, stops, rfl⟩]
  rfl

theorem Reads.none_of_append (reads : Reads marker? pattern report) {text more : Bytes}
    (absent : marker? (text ++ more) = none) : marker? text = none := by
  by_contra present
  have kept := reads.isSome_append (Option.isSome_iff_ne_none.mpr present) more
  rw [absent] at kept
  cases kept

/-- A marker before a line break is found in the same way without the break and what follows it. -/
theorem Reads.before_break (reads : Reads marker? pattern report) {byte : UInt8}
    (breaks : isLineBreak byte = true) {before after rest : Bytes} {found : α}
    (unbroken : pattern.Unbroken (before ++ byte :: after))
    (read : marker? (before ++ byte :: after) = some (found, rest)) :
    ∃ left, rest = left ++ byte :: after ∧ marker? before = some (found, left) := by
  obtain ⟨marked, groups, same, spelled, stops, reported⟩ := (reads.some_iff _ _ _).mp read
  have whole : byte ∉ marked := by
    intro member
    have inside : marked <:+: before ++ byte :: after := same ▸ (List.prefix_append ..).isInfix
    rw [unbroken marked inside ⟨groups, spelled⟩ byte member] at breaks
    cases breaks
  obtain ⟨left, rfl, rfl⟩ : ∃ left, before = marked ++ left ∧ rest = left ++ byte :: after := by
    rcases List.append_eq_append_iff.mp same with ⟨beyond, rfl, reached⟩ | ⟨left, rfl, rfl⟩
    · cases beyond with
      | nil => exact ⟨[], by simp, by simpa using reached.symm⟩
      | cons first others =>
        cases reached
        exact absurd (by simp) whole
    · exact ⟨left, rfl, rfl⟩
  exact ⟨left, rfl, (reads.some_iff _ _ _).mpr
    ⟨marked, groups, rfl, spelled, stops.of_append, reported⟩⟩

/-! ## The whole search -/

theorem all_of_none {byte : UInt8} {rest : Bytes} (absent : marker? (byte :: rest) = none) :
    all marker? (byte :: rest) = all marker? rest := by
  rw [all, absent]

theorem Reads.all_of_some (reads : Reads marker? pattern report) {text rest : Bytes} {found : α}
    (read : marker? text = some (found, rest)) : all marker? text = found :: all marker? rest := by
  obtain ⟨marked, groups, rfl, spelled, -, -⟩ := (reads.some_iff _ _ _).mp read
  obtain ⟨byte, tail, rfl, -⟩ := pattern.begins_with_digit spelled
  rw [List.cons_append] at read ⊢
  rw [all, read]
  simp only [List.length_append]
  rw [if_pos (by omega)]

/-- More text never makes all markers disappear. -/
theorem Reads.all_append_ne_nil (reads : Reads marker? pattern report) {text : Bytes}
    (found : all marker? text ≠ []) (more : Bytes) : all marker? (text ++ more) ≠ [] := by
  induction text with
  | nil => simp [all] at found
  | cons byte rest ih =>
    cases longer : marker? (byte :: rest ++ more) with
    | some result =>
      rw [reads.all_of_some longer]
      simp
    | none =>
      rw [all_of_none (reads.none_of_append longer)] at found
      rw [List.cons_append] at longer ⊢
      rw [all_of_none longer]
      exact ih found

/-- A text without markers has none in any part of it. -/
theorem Reads.all_nil_of_infix (reads : Reads marker? pattern report) {part whole : Bytes}
    (inside : part <:+: whole) (nothing : all marker? whole = []) : all marker? part = [] := by
  by_contra something
  obtain ⟨before, after, rfl⟩ := inside
  revert nothing
  rw [List.append_assoc]
  have kept := reads.all_append_ne_nil something after
  induction before with
  | nil => exact kept
  | cons byte rest ih =>
    cases read : marker? (byte :: rest ++ (part ++ after)) with
    | some result =>
      rw [reads.all_of_some read]
      simp
    | none =>
      rw [List.cons_append] at read ⊢
      rw [all_of_none read]
      exact ih

/-- Where no marker holds a line break, the markers around a break are those before it followed by
those after it. -/
theorem Reads.all_at_break (reads : Reads marker? pattern report) {byte : UInt8}
    (breaks : isLineBreak byte = true) (before after : Bytes)
    (unbroken : pattern.Unbroken (before ++ byte :: after)) :
    all marker? (before ++ byte :: after) = all marker? before ++ all marker? after := by
  -- The search jumps over whole markers, so the induction is on the length of what is left.
  induction size : before.length using Nat.strong_induction_on generalizing before with
  | _ size ih =>
    subst size
    cases before with
    | nil => simp [all_of_none (reads.none_at_break breaks after), all]
    | cons first rest =>
      cases read : marker? (first :: rest ++ byte :: after) with
      | none =>
        rw [all_of_none (reads.none_of_append read)]
        rw [List.cons_append] at read ⊢
        rw [all_of_none read]
        exact ih rest.length (by simp) rest
          (unbroken.of_infix (List.suffix_cons first _).isInfix) rfl
      | some result =>
        obtain ⟨found, tail⟩ := result
        obtain ⟨left, rfl, readBefore⟩ := reads.before_break breaks unbroken read
        obtain ⟨marked, groups, same, -, -, -⟩ := (reads.some_iff _ _ _).mp readBefore
        rw [reads.all_of_some read, reads.all_of_some readBefore, List.cons_append]
        congr 1
        refine ih left.length (reads.shortens readBefore) left (unbroken.of_infix ?_) rfl
        rw [same, List.append_assoc]
        exact (List.suffix_append ..).isInfix

end Reading

/-! ## The edges of a marker -/

/-- What stands before a marker does not prolong its first number. -/
def Starts (front : Bytes) : Prop := ∀ byte ∈ front.getLast?, isDigit byte = false

instance (front : Bytes) : Decidable (Starts front) :=
  inferInstanceAs (Decidable (∀ byte ∈ front.getLast?, isDigit byte = false))

/-- The stream holds a marker with these numbers, and neither its first nor its last number goes on
beyond it. -/
def Pattern.Whole (pattern : Pattern) (stream : Bytes) (groups : List Bytes) : Prop :=
  ∃ front marked rest, stream = front ++ marked ++ rest ∧ Spelled pattern.pieces marked groups ∧
    Starts front ∧ Stops pattern.pieces rest

theorem Starts.of_append {front : Bytes} (starts : Starts front) (before : Bytes)
    (nonempty : front ≠ []) : Starts (before ++ front) := by
  unfold Starts
  rwa [List.getLast?_append_of_ne_nil _ nonempty]

theorem Stops.append {pieces : List Piece} {rest : Bytes} (stops : Stops pieces rest)
    (nonempty : rest ≠ []) (more : Bytes) : Stops pieces (rest ++ more) := by
  unfold Stops
  rwa [List.head?_append_of_ne_nil _ nonempty]

/-- A digit before a marker belongs to it. -/
theorem Pattern.digit_before (pattern : Pattern) {byte : UInt8} (digit : isDigit byte = true)
    {marked : Bytes} {groups : List Bytes} (spelled : Spelled pattern.pieces marked groups) :
    ∃ groups, Spelled pattern.pieces (byte :: marked) groups := by
  obtain ⟨more, shape⟩ := List.head?_eq_some_iff.mp pattern.front
  rw [shape] at spelled ⊢
  cases spelled with
  | @cons _ _ span _ _ head tail =>
    cases head with
    | digits nonempty each =>
      have longer : Piece.digits.Spells (byte :: span) :=
        .digits (by simp) (by simpa [digit] using each)
      exact ⟨_, .cons longer tail⟩

/-- Only a run of digits ends in a digit. -/
theorem Piece.Spells.ends_in_digit {piece : Piece} {span : Bytes} (spelled : piece.Spells span)
    (proper : piece.isProper = true) {byte : UInt8} (last : byte ∈ span.getLast?)
    (digit : isDigit byte = true) : piece = .digits := by
  cases spelled with
  | digits => rfl
  | gap _ each =>
    have blank := each byte (List.mem_of_getLast? last)
    rw [Piece.digit_not_gap digit] at blank
    cases blank
  | colon => cases last; cases digit
  | lowerCase lower =>
    cases last
    simp only [isProper, isDigit, Bool.and_eq_true, decide_eq_true_eq] at proper digit
    grind
  | upperCase lower =>
    cases last
    simp only [isProper, isDigit, Bool.and_eq_true, decide_eq_true_eq] at proper digit
    grind
  | longS => cases last; cases digit
  | kelvin => cases last; cases digit

/-- Where a marker that ends in a digit ends, the next byte is none. -/
theorem Spelled.digits_end {pieces : List Piece} {marked rest : Bytes} {groups : List Bytes}
    (spelled : Spelled pieces marked groups) (proper : ∀ piece ∈ pieces, piece.isProper = true)
    (stops : Stops pieces rest) {byte next : UInt8} (last : byte ∈ marked.getLast?)
    (digit : isDigit byte = true) (following : next ∈ rest.head?) : isDigit next = false := by
  induction spelled with
  | nil => cases last
  | @cons piece pieces span text groups head tail ih =>
    cases tail with
    | nil =>
      rw [List.append_nil] at last
      obtain rfl := head.ends_in_digit (proper piece (by simp)) last digit
      exact stops .digits rfl next following
    | @cons _ _ nextSpan others _ nextHead nextTail =>
      have nonempty := List.append_ne_nil_of_left_ne_nil nextHead.ne_nil others
      rw [List.getLast?_append_of_ne_nil _ nonempty] at last
      exact ih (fun other member => proper other (by simp [member]))
        (by simpa [Stops] using stops) last

section Reading
variable {α : Type} {marker? : Bytes → Option (α × Bytes)} {pattern : Pattern}
  {report : List Bytes → α}

/-- Every marker that the search of a text finds is a whole one. -/
theorem Reads.whole_of_mem (reads : Reads marker? pattern report) {text : Bytes} {found : α}
    (member : found ∈ all marker? text) :
    ∃ groups, pattern.Whole text groups ∧ report groups = found := by
  -- The search jumps over whole markers, so the induction is on the length of what is left.
  induction size : text.length using Nat.strong_induction_on generalizing text with
  | _ size ih =>
    subst size
    cases text with
    | nil => simp [all] at member
    | cons byte rest =>
      cases read : marker? (byte :: rest) with
      | none =>
        rw [all_of_none read] at member
        obtain ⟨groups, ⟨front, marked, after, split, spelled, starts, stops⟩, same⟩ :=
          ih rest.length (by simp) member rfl
        refine ⟨groups, ⟨byte :: front, marked, after, by simp [split], spelled, ?_, stops⟩, same⟩
        by_cases first : front = []
        · -- A digit right before the marker would have made it begin one byte earlier.
          subst first
          intro last isLast
          cases isLast
          by_contra digit
          obtain ⟨longer, spelled⟩ := pattern.digit_before (by simpa using digit) spelled
          have found := (reads.some_iff (byte :: rest) after (report longer)).mpr
            ⟨byte :: marked, longer, by simp [split], spelled, stops, rfl⟩
          rw [read] at found
          cases found
        · exact starts.of_append [byte] first
      | some result =>
        obtain ⟨earlier, tail⟩ := result
        rw [reads.all_of_some read] at member
        obtain ⟨taken, numbers, split, spelled, stops, same⟩ := (reads.some_iff _ _ _).mp read
        rcases List.mem_cons.mp member with rfl | later
        · exact ⟨numbers, ⟨[], taken, tail, split, spelled, by simp [Starts], stops⟩, same⟩
        · obtain ⟨groups, ⟨front, marked, after, rfl, next, starts, ends⟩, same⟩ :=
            ih tail.length (reads.shortens read) later rfl
          refine ⟨groups, ⟨taken ++ front, marked, after, by simp [split], next, ?_, ends⟩, same⟩
          by_cases first : front = []
          · -- The next marker begins where this one ends; a number of both would be one number.
            subst first
            intro last isLast
            rw [List.append_nil] at isLast
            by_contra isDigit
            obtain ⟨head, body, rfl, headDigit⟩ := pattern.begins_with_digit next
            have following : head ∈ (([] : Bytes) ++ (head :: body) ++ after).head? := rfl
            rw [spelled.digits_end pattern.proper stops isLast (by simpa using isDigit) following]
              at headDigit
            cases headDigit
          · exact starts.of_append _ first

end Reading

end Mosaic.Marker
