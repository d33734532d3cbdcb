import Mosaic.Proofs.KeptLine
import Mosaic.Proofs.WhiteSpace
import Mosaic.Report.ProgressView

/-! The line of renderer output that the view shows. Renderers redraw their progress line with carriage
returns, so either line break ends a line and the end of the output may be blank. Searching
backwards for a line that is not blank gives the same as trimming the whole output first and
cutting it once, whatever mixture of line breaks, blank lines, wide spaces and stray bytes it
holds. -/
namespace Mosaic.Report
open Text

/-- Induction over the lines of a text, the last one apart from those before it. -/
@[elab_as_elim]
theorem lines_induction {motive : Bytes → Prop}
    (sole : ∀ line : Bytes, (∀ byte ∈ line, isLineBreak byte = false) → motive line)
    (more : ∀ (before : Bytes) (byte : UInt8) (line : Bytes), isLineBreak byte = true →
      (∀ byte ∈ line, isLineBreak byte = false) → motive before → motive (before ++ byte :: line))
    (text : Bytes) : motive text := by
  induction size : text.length using Nat.strongRecOn generalizing text with
  | ind n ih =>
    have unbroken := @after_last_break_unbroken text
    have whole := finished_append_unfinished text
    rcases finished_lines_end text with empty | ⟨before, byte, breaks, shape⟩
    · rw [empty, List.nil_append] at whole
      rw [← whole]
      exact sole _ unbroken
    · rw [shape, List.append_assoc, List.singleton_append] at whole
      rw [← whole] at size ⊢
      rw [List.length_append, List.length_cons] at size
      exact more before byte _ breaks unbroken (ih before.length (by omega) before rfl)

theorem brokenLines_eq (text : Bytes) : brokenLines text = text.splitOnP isLineBreak := by
  induction text with
  | nil => rfl
  | cons byte rest ih =>
    obtain ⟨line, others, shape⟩ :=
      List.exists_cons_of_ne_nil (List.splitOnP_ne_nil isLineBreak rest)
    rw [brokenLines, ih, List.splitOnP_cons_eq_if_modifyHead, shape]
    rfl

theorem lastLine_of_unbroken {line : Bytes} (unbroken : ∀ byte ∈ line, isLineBreak byte = false) :
    lastLine line = trim line := by
  rw [lastLine, brokenLines_eq, List.splitOnP_eq_singleton unbroken]
  by_cases blank : trim line = []
  · simp [blank]
  · simp [blank]

/-- The search goes back a line where the last line is blank. -/
theorem lastLine_append_break {byte : UInt8} {line : Bytes} (before : Bytes)
    (breaks : isLineBreak byte = true) (unbroken : ∀ byte ∈ line, isLineBreak byte = false) :
    lastLine (before ++ byte :: line) = if trim line = [] then lastLine before else trim line := by
  rw [lastLine, lastLine, brokenLines_eq, brokenLines_eq,
    List.splitOnP_append_cons before line breaks, List.splitOnP_eq_singleton unbroken,
    List.map_append, List.reverse_append]
  by_cases blank : trim line = []
  · simp [blank]
  · simp [blank]

theorem isWhite_break {byte : UInt8} (breaks : isLineBreak byte = true) : IsWhite [byte] := by
  rw [isLineBreak, Bool.or_eq_true, beq_iff_eq, beq_iff_eq] at breaks
  rcases breaks with rfl | rfl
  · exact @isWhite_encode '\n' (by decide)
  · exact @isWhite_encode '\r' (by decide)

theorem mem_of_mem_trim {text : Bytes} {byte : UInt8} (member : byte ∈ trim text) :
    byte ∈ text := by
  obtain ⟨lead, trail, shape, -⟩ := trim_split text
  rw [shape]
  simp [member]

/-- Where neither the last line nor what stands before it is blank, trimming leaves the last line at
its end. -/
theorem trim_append_break {byte : UInt8} {before line : Bytes} (breaks : isLineBreak byte = true)
    (unbroken : ∀ byte ∈ line, isLineBreak byte = false) (earlier : ¬IsWhite before)
    (visible : ¬IsWhite line) :
    trim (afterLastBreak (trim (before ++ byte :: line))) = trim line := by
  obtain ⟨lead, gap, shape, whiteLead, whiteGap, trimmed⟩ := trim_split before
  obtain ⟨indent, trail, lineShape, whiteIndent, whiteTrail, lineTrimmed⟩ := trim_split line
  have between : IsWhite (gap ++ byte :: indent) :=
    whiteGap.append ((isWhite_break breaks).append whiteIndent)
  have middle : IsTrimmed (trim before ++ ((gap ++ byte :: indent) ++ trim line)) := by
    apply trimmed.joined between lineTrimmed
    · rwa [ne_eq, trim_eq_nil_iff]
    · simp
    · rwa [ne_eq, trim_eq_nil_iff]
  have whole : before ++ byte :: line =
      lead ++ (trim before ++ ((gap ++ byte :: indent) ++ trim line)) ++ trail := by
    nth_rewrite 1 [shape, lineShape]
    simp only [List.append_assoc, List.cons_append]
  have rest : UnderWay (trim before ++ ((gap ++ byte :: indent) ++ trim line))
      (indent ++ trim line) := by
    refine ⟨⟨trim before ++ gap ++ [byte], by simp, ?_⟩, ?_⟩
    · intro last ends
      rw [List.getLast?_concat, Option.mem_some] at ends
      rwa [← ends]
    · intro other member
      apply unbroken
      rw [lineShape]
      exact List.mem_append_left trail member
  have indented := trim_eq whiteIndent isWhite_nil lineTrimmed
  rw [List.append_nil] at indented
  rw [whole, trim_eq whiteLead whiteTrail middle, rest.eq_after_last_break, indented]

/-- Searching backwards for a visible line is trimming, cutting at the last line break, and trimming
again. -/
theorem lastLine_eq (text : Bytes) : lastLine text = trim (afterLastBreak (trim text)) := by
  have settled : ∀ {line : Bytes}, (∀ byte ∈ line, isLineBreak byte = false) →
      trim (afterLastBreak (trim line)) = trim line := by
    intro line unbroken
    have inside : ∀ byte ∈ trim line, isLineBreak byte = false :=
      fun byte member => unbroken byte (mem_of_mem_trim member)
    rw [after_last_break_of_unbroken inside, (isTrimmed_trim line).trim_eq_self]
  induction text using lines_induction with
  | sole line unbroken => rw [lastLine_of_unbroken unbroken, settled unbroken]
  | more before byte line breaks unbroken ih =>
    rw [lastLine_append_break before breaks unbroken]
    by_cases blank : IsWhite line
    · have dropped : trim (before ++ byte :: line) = trim before :=
        trim_between isWhite_nil ((isWhite_break breaks).append blank) before
      rw [if_pos ((trim_eq_nil_iff line).mpr blank), dropped, ih]
    · rw [if_neg (by rwa [trim_eq_nil_iff])]
      by_cases earlier : IsWhite before
      · have dropped := trim_between (earlier.append (isWhite_break breaks)) isWhite_nil line
        rw [List.append_nil, List.append_assoc, List.singleton_append] at dropped
        rw [dropped, settled unbroken]
      · rw [trim_append_break breaks unbroken earlier blank]

theorem lastLine_unbroken (text : Bytes) : ∀ byte ∈ lastLine text, isLineBreak byte = false := by
  intro byte member
  rw [lastLine_eq] at member
  exact after_last_break_unbroken byte (mem_of_mem_trim member)

theorem lastLine_trimmed (text : Bytes) : IsTrimmed (lastLine text) := by
  rw [lastLine_eq]
  exact isTrimmed_trim (afterLastBreak (trim text))

theorem lastLine_eq_nil_iff (text : Bytes) : lastLine text = [] ↔ IsWhite text := by
  rw [lastLine_eq, trim_eq_nil_iff, ← trim_eq_nil_iff text]
  have trimmed := isTrimmed_trim text
  generalize trim text = middle at trimmed
  constructor
  · intro blank
    -- A trimmed text ends neither in a blank line nor in the line break before one.
    have whole := finished_append_unfinished middle
    have none : afterLastBreak middle = [] := trimmed.eq_nil_of_suffix blank ⟨_, whole⟩
    rw [none, List.append_nil] at whole
    rcases finished_lines_end middle with empty | ⟨before, byte, breaks, shape⟩
    · rw [← whole, empty]
    · rw [shape] at whole
      have broken := trimmed.eq_nil_of_suffix (isWhite_break breaks) ⟨before, whole⟩
      cases broken
  · rintro rfl
    exact isWhite_nil

/-- The last line stands in the text with nothing but white space before it on its line, and nothing
but white space behind it. -/
theorem lastLine_stands (text : Bytes) :
    ∃ earlier indent after, text = earlier ++ indent ++ lastLine text ++ after ∧
      (∀ last ∈ earlier.getLast?, isLineBreak last = true) ∧ IsWhite indent ∧ IsWhite after := by
  obtain ⟨lead, trail, shape, whiteLead, whiteTrail, -⟩ := trim_split text
  obtain ⟨indent, margin, lineShape, whiteIndent, whiteMargin, -⟩ :=
    trim_split (afterLastBreak (trim text))
  rw [← lastLine_eq] at lineShape
  have whole := finished_append_unfinished (trim text)
  rw [lineShape] at whole
  rcases finished_lines_end (trim text) with empty | ⟨before, byte, breaks, finished⟩
  · refine ⟨[], lead ++ indent, margin ++ trail, ?_, by simp, whiteLead.append whiteIndent,
      whiteMargin.append whiteTrail⟩
    nth_rewrite 1 [shape]
    rw [← whole, empty]
    simp only [List.append_assoc, List.nil_append]
  · refine ⟨lead ++ before ++ [byte], indent, margin ++ trail, ?_, ?_, whiteIndent,
      whiteMargin.append whiteTrail⟩
    · nth_rewrite 1 [shape]
      rw [← whole, finished]
      simp only [List.append_assoc]
    · intro last ends
      rw [List.getLast?_concat, Option.mem_some] at ends
      rwa [← ends]

/-- The view shows the last visible line of any output. It is what trimming leaves of the end of the
trimmed output. It is empty for white space and for nothing else, has neither line breaks nor
white space at its ends, is followed by white space only, and is its own last line. -/
theorem last_line_is_end_of_trimmed_text (text : Bytes) :
    let line := lastLine text
    line = trim (afterLastBreak (trim text)) ∧ (line = [] ↔ IsWhite text) ∧
      (∀ byte ∈ line, byte ≠ 10 ∧ byte ≠ 13) ∧ IsTrimmed line ∧
      (∃ earlier indent after, text = earlier ++ indent ++ line ++ after ∧
        (∀ last ∈ earlier.getLast?, isLineBreak last = true) ∧ IsWhite indent ∧ IsWhite after) ∧
      lastLine line = line := by
  intro line
  have trimmed : IsTrimmed line := lastLine_trimmed text
  refine ⟨lastLine_eq text, lastLine_eq_nil_iff text, ?_, trimmed, lastLine_stands text, ?_⟩
  · intro byte member
    have plain := lastLine_unbroken text byte member
    simpa [isLineBreak] using plain
  · rw [lastLine_of_unbroken (lastLine_unbroken text), trimmed.trim_eq_self]

-- A lead byte that nothing completes is visible; the wide spaces around the line are not.
example :
    lastLine [0x61, 0x0D, 0x0A, 0x20, 0xE2, 0x80, 0x85, 0x62, 0xE2, 0xC2, 0x85, 0x0A, 0xE3, 0x80,
      0x80, 0x0D] = [0x62, 0xE2] := by
  decide +kernel

end Mosaic.Report
