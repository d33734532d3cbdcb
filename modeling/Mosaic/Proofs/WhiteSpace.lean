import Mathlib.Data.List.DropRight
import Mosaic.Proofs.Segments
import Mosaic.Text.Blank

/-! White space at the ends of bytes that need not be well-formed. Trimming is characterised by the
bytes alone: what it takes off encodes white-space characters, what it leaves neither begins nor
ends in such an encoding, and there is one way to divide a text so. -/
namespace Mosaic.Text
open String (utf8EncodeChar)

/-- The bytes of a text of white-space characters. -/
def IsWhite (text : Bytes) : Prop :=
  ∃ blanks : String, (∀ c ∈ blanks.toList, isBlank c = true) ∧ text = .ofString blanks

/-- No white-space character stands at either end. -/
def IsTrimmed (text : Bytes) : Prop :=
  ∀ c, isBlank c = true → ¬utf8EncodeChar c <+: text ∧ ¬utf8EncodeChar c <:+ text

theorem isBlankSegment_encode (c : Char) : isBlankSegment (utf8EncodeChar c) = isBlank c := by
  rw [isBlankSegment, (formed_encode c).scalar]

/-- A blank segment of a text encodes a white-space character. -/
theorem blank_segment {text segment : Bytes} (member : segment ∈ segments text)
    (blank : isBlankSegment segment = true) :
    ∃ c, isBlank c = true ∧ segment = utf8EncodeChar c := by
  rcases mem_segments member with ⟨c, rfl⟩ | stray
  · exact ⟨c, by rwa [isBlankSegment_encode] at blank, rfl⟩
  · rw [isBlankSegment, stray] at blank
    cases blank

theorem isWhite_nil : IsWhite [] := ⟨"", by simp, rfl⟩

theorem isWhite_encode {c : Char} (blank : isBlank c = true) : IsWhite (utf8EncodeChar c) :=
  ⟨String.ofList [c], by simpa using blank, by simp [ofString_eq]⟩

namespace IsWhite
variable {text lead trail : Bytes}

/-- White space is made of whole characters, so whatever follows it is cut as it is by itself. -/
theorem segments_append (white : IsWhite lead) (rest : Bytes) :
    segments (lead ++ rest) = segments lead ++ segments rest := by
  obtain ⟨blanks, -, rfl⟩ := white
  rw [segments_ofString_append, segments_ofString]

theorem opens (white : IsWhite trail) : Opens trail := by
  obtain ⟨blanks, -, rfl⟩ := white
  rw [ofString_eq]
  cases blanks.toList with
  | nil => simp [Opens]
  | cons c more => exact opens_encode c _

theorem blank (white : IsWhite text) :
    ∀ segment ∈ segments text, isBlankSegment segment = true := by
  obtain ⟨blanks, whites, rfl⟩ := white
  intro segment member
  rw [segments_ofString] at member
  obtain ⟨c, among, rfl⟩ := List.mem_map.mp member
  rw [isBlankSegment_encode]
  exact whites c among

theorem append (first : IsWhite lead) (second : IsWhite trail) : IsWhite (lead ++ trail) := by
  obtain ⟨blanks, whites, rfl⟩ := first
  obtain ⟨others, also, rfl⟩ := second
  refine ⟨String.ofList (blanks.toList ++ others.toList), ?_, ?_⟩
  · rw [String.toList_ofList, List.forall_mem_append]
    exact ⟨whites, also⟩
  · rw [ofString_eq, ofString_eq, ofString_eq, String.toList_ofList, List.flatMap_append]

end IsWhite

/-- Blank segments of a text make up white space, of which they are the segments. -/
theorem blank_segments (text : Bytes) {blanks : List Bytes}
    (among : ∀ segment ∈ blanks, segment ∈ segments text)
    (blank : ∀ segment ∈ blanks, isBlankSegment segment = true) :
    IsWhite blanks.flatten ∧ segments blanks.flatten = blanks := by
  induction blanks with
  | nil => exact ⟨isWhite_nil, segments_nil⟩
  | cons segment more ih =>
    rw [List.forall_mem_cons] at among blank
    obtain ⟨c, white, rfl⟩ := blank_segment among.1 blank.1
    obtain ⟨whites, others⟩ := ih among.2 blank.2
    rw [List.flatten_cons, segments_encode, others]
    exact ⟨(isWhite_encode white).append whites, rfl⟩

/-- Neither the first nor the last element of a list is of a class. -/
def Bare {α : Type} (drop : α → Bool) (xs : List α) : Prop :=
  (∀ x ∈ xs.head?, drop x = false) ∧ ∀ x ∈ xs.getLast?, drop x = false

theorem isTrimmed_iff (text : Bytes) :
    IsTrimmed text ↔ Bare isBlankSegment (segments text) := by
  constructor
  · intro trimmed
    have unspaced : ∀ segment ∈ segments text,
        segment <+: text ∨ segment <:+ text → isBlankSegment segment = false := by
      intro segment member stands
      apply Bool.eq_false_iff.mpr
      intro blank
      obtain ⟨c, white, rfl⟩ := blank_segment member blank
      rcases stands with begins | ends
      · exact (trimmed c white).1 begins
      · exact (trimmed c white).2 ends
    constructor
    · intro segment first
      obtain ⟨more, shape⟩ := List.head?_eq_some_iff.mp first
      apply unspaced segment (List.mem_of_mem_head? first)
      left
      exact ⟨more.flatten, by rw [← List.flatten_cons, ← shape, flatten_segments]⟩
    · intro segment last
      obtain ⟨before, shape⟩ := List.getLast?_eq_some_iff.mp last
      apply unspaced segment (List.mem_of_mem_getLast? last)
      right
      exact ⟨before.flatten, by rw [← List.flatten_concat, ← shape, flatten_segments]⟩
  · rintro ⟨first, last⟩ c white
    have blank : isBlankSegment (utf8EncodeChar c) = true := by rwa [isBlankSegment_encode]
    constructor
    · rintro ⟨rest, rfl⟩
      rw [segments_encode] at first
      rw [first (utf8EncodeChar c) (by simp)] at blank
      cases blank
    · rintro ⟨front, rfl⟩
      have alone := segments_encode c []
      have opens := opens_encode c []
      rw [List.append_nil] at alone opens
      rw [Text.segments_append opens, alone, segments_nil] at last
      rw [last (utf8EncodeChar c) (by simp)] at blank
      cases blank

section Ends
variable {α : Type} {drop : α → Bool}

/-- Dropping from both ends takes off elements of the class until neither end is one. -/
theorem dropEnds_split (drop : α → Bool) (xs : List α) :
    ∃ lead trail, xs = lead ++ dropEnds drop xs ++ trail ∧ (∀ x ∈ lead, drop x = true) ∧
      (∀ x ∈ trail, drop x = true) ∧ Bare drop (dropEnds drop xs) := by
  have inner : dropEnds drop xs = (xs.dropWhile drop).rdropWhile drop := rfl
  refine ⟨xs.takeWhile drop, (xs.dropWhile drop).rtakeWhile drop, ?_, ?_, ?_, ?_, ?_⟩
  · rw [inner, List.append_assoc, List.rdropWhile_append_rtakeWhile,
      List.takeWhile_append_dropWhile]
  · intro x member
    exact List.mem_takeWhile_imp member
  · intro x member
    exact List.mem_rtakeWhile_imp member
  · intro x first
    -- What is dropped at the end leaves the first element in place.
    have before : (xs.dropWhile drop).head? = some x := by
      obtain ⟨more, shape⟩ := List.rdropWhile_prefix drop (xs.dropWhile drop)
      rw [← shape, ← inner, List.head?_append, first, Option.some_or]
    have stops := List.head?_dropWhile_not drop xs
    rw [before] at stops
    simpa using stops
  · intro x last
    rw [inner] at last
    have nonempty : (xs.dropWhile drop).rdropWhile drop ≠ [] := by
      intro empty
      simp [empty] at last
    have stops := List.rdropWhile_last_not drop (xs.dropWhile drop) nonempty
    rw [List.getLast?_eq_some_getLast nonempty, Option.mem_some] at last
    rw [last] at stops
    simpa using stops

theorem dropWhile_append_exact {lead rest : List α} (before : ∀ x ∈ lead, drop x = true)
    (stops : ∀ x ∈ rest.head?, drop x = false) : (lead ++ rest).dropWhile drop = rest := by
  rw [List.dropWhile_append_of_pos before]
  cases rest with
  | nil => rfl
  | cons x more => exact List.dropWhile_cons_of_neg (by simp [stops x (by simp)])

theorem dropEnds_eq {lead middle trail : List α} (before : ∀ x ∈ lead, drop x = true)
    (after : ∀ x ∈ trail, drop x = true) (bare : Bare drop middle) :
    dropEnds drop (lead ++ middle ++ trail) = middle := by
  by_cases empty : middle = []
  · have all : ∀ x ∈ lead ++ middle ++ trail, drop x = true := by
      rw [empty, List.append_nil, List.forall_mem_append]
      exact ⟨before, after⟩
    rw [dropEnds, List.dropWhile_eq_nil_iff.mpr all, empty]
    rfl
  · have first : ∀ x ∈ (middle ++ trail).head?, drop x = false := by
      rw [List.head?_append_of_ne_nil middle empty]
      exact bare.1
    have last : ∀ x ∈ middle.reverse.head?, drop x = false := by
      rw [List.head?_reverse]
      exact bare.2
    have behind : ∀ x ∈ trail.reverse, drop x = true := by simpa using after
    rw [dropEnds, List.append_assoc, dropWhile_append_exact before first, List.reverse_append,
      dropWhile_append_exact behind last, List.reverse_reverse]

end Ends

/-- Trimming takes off white space until there is none at either end. -/
theorem trim_split (text : Bytes) :
    ∃ lead trail, text = lead ++ trim text ++ trail ∧ IsWhite lead ∧ IsWhite trail ∧
      IsTrimmed (trim text) := by
  obtain ⟨lead, trail, shape, before, after, bare⟩ := dropEnds_split isBlankSegment (segments text)
  have leading : ∀ segment ∈ lead, segment ∈ segments text := by
    intro segment member
    rw [shape]
    simp [member]
  have trailing : ∀ segment ∈ trail, segment ∈ segments text := by
    intro segment member
    rw [shape]
    simp [member]
  obtain ⟨whiteLead, leads⟩ := blank_segments text leading before
  obtain ⟨whiteTrail, trails⟩ := blank_segments text trailing after
  have whole : text = lead.flatten ++ trim text ++ trail.flatten := by
    rw [trim, ← List.flatten_append, ← List.flatten_append, ← shape, flatten_segments]
  have cut : segments text = lead ++ segments (trim text) ++ trail := by
    calc segments text
      _ = segments (lead.flatten ++ trim text ++ trail.flatten) := congrArg segments whole
      _ = lead ++ segments (trim text) ++ trail := by
        rw [segments_append whiteTrail.opens, whiteLead.segments_append, leads, trails]
  have kept : segments (trim text) = dropEnds isBlankSegment (segments text) :=
    List.append_cancel_left (List.append_cancel_right (cut.symm.trans shape))
  refine ⟨lead.flatten, trail.flatten, whole, whiteLead, whiteTrail, ?_⟩
  rwa [isTrimmed_iff, kept]

/-- There is one way to divide a text into white space, a trimmed text and white space. -/
theorem trim_eq {lead middle trail : Bytes} (before : IsWhite lead) (after : IsWhite trail)
    (trimmed : IsTrimmed middle) : trim (lead ++ middle ++ trail) = middle := by
  have bare := (isTrimmed_iff middle).mp trimmed
  rw [trim, segments_append after.opens, before.segments_append,
    dropEnds_eq before.blank after.blank bare, flatten_segments]

theorem trim_nil : trim [] = [] := by
  rw [trim, segments_nil]
  rfl

theorem isTrimmed_trim (text : Bytes) : IsTrimmed (trim text) := by
  obtain ⟨-, -, -, -, -, trimmed⟩ := trim_split text
  exact trimmed

theorem IsTrimmed.trim_eq_self {text : Bytes} (trimmed : IsTrimmed text) : trim text = text := by
  simpa using trim_eq isWhite_nil isWhite_nil trimmed

/-- White space around a text makes no difference to what is left of it. -/
theorem trim_between {lead trail : Bytes} (before : IsWhite lead) (after : IsWhite trail)
    (text : Bytes) : trim (lead ++ text ++ trail) = trim text := by
  obtain ⟨front, back, shape, white, also, trimmed⟩ := trim_split text
  have whole : lead ++ text ++ trail = (lead ++ front) ++ trim text ++ (back ++ trail) := by
    nth_rewrite 1 [shape]
    simp only [List.append_assoc]
  rw [whole, trim_eq (before.append white) (also.append after) trimmed]

theorem trim_eq_nil_iff (text : Bytes) : trim text = [] ↔ IsWhite text := by
  constructor
  · intro empty
    obtain ⟨lead, trail, shape, before, after, -⟩ := trim_split text
    rw [empty, List.append_nil] at shape
    rw [shape]
    exact before.append after
  · intro white
    have nothing := trim_between white isWhite_nil []
    rwa [List.append_nil, List.append_nil, trim_nil] at nothing

/-- White space at the end of a trimmed text is nothing. -/
theorem IsTrimmed.eq_nil_of_suffix {text trail : Bytes} (trimmed : IsTrimmed text)
    (white : IsWhite trail) (ends : trail <:+ text) : trail = [] := by
  obtain ⟨blanks, whites, rfl⟩ := white
  rw [ofString_eq] at ends ⊢
  rcases List.eq_nil_or_concat' blanks.toList with empty | ⟨front, c, shape⟩
  · rw [empty, List.flatMap_nil]
  · rw [shape] at ends whites
    have blank : isBlank c = true := whites c (by simp)
    have last : utf8EncodeChar c <:+ (front ++ [c]).flatMap utf8EncodeChar :=
      ⟨front.flatMap utf8EncodeChar, by simp⟩
    exact absurd (last.trans ends) (trimmed c blank).2

/-- Two trimmed texts with white space between them make a trimmed text. Without it the bytes at the
end of the one and at the front of the other could form a character. -/
theorem IsTrimmed.joined {first gap second : Bytes} (before : IsTrimmed first)
    (between : IsWhite gap) (after : IsTrimmed second) (begins : first ≠ []) (apart : gap ≠ [])
    (follows : second ≠ []) : IsTrimmed (first ++ (gap ++ second)) := by
  have opens : Opens (gap ++ second) := by
    intro byte head
    rw [List.head?_append_of_ne_nil gap apart] at head
    exact between.opens byte head
  rw [isTrimmed_iff] at before after ⊢
  rw [segments_append opens, between.segments_append]
  constructor
  · rw [List.head?_append_of_ne_nil _ (segments_ne_nil begins)]
    exact before.1
  · rw [← List.append_assoc, List.getLast?_append_of_ne_nil _ (segments_ne_nil follows)]
    exact after.2

end Mosaic.Text
