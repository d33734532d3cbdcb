import Mathlib.Data.List.DropRight
import Mosaic.Worker

/-! What is kept of a stream between two reads. The unfinished line is a function of everything read
so far, however it was cut into reads, also where a line is longer than the limit and only its end
is kept. -/
namespace Mosaic

/-- Everything up to the last line break. -/
def finishedLines (text : Bytes) : Bytes := text.rdropWhile (!isLineBreak ·)

theorem finished_append_unfinished (text : Bytes) :
    finishedLines text ++ afterLastBreak text = text :=
  List.rdropWhile_append_rtakeWhile ..

theorem after_last_break_unbroken {text : Bytes} :
    ∀ byte ∈ afterLastBreak text, isLineBreak byte = false := by
  intro byte member
  have kept := List.mem_rtakeWhile_imp member
  simpa using kept

/-- Finished lines end in the line break that finishes them. -/
theorem finished_lines_end (text : Bytes) :
    finishedLines text = [] ∨
      ∃ before byte, isLineBreak byte = true ∧ finishedLines text = before ++ [byte] := by
  rcases List.eq_nil_or_concat' (finishedLines text) with empty | ⟨before, byte, shape⟩
  · exact .inl empty
  · refine .inr ⟨before, byte, ?_, shape⟩
    unfold finishedLines at shape
    have last := List.rdropWhile_last_not (!isLineBreak ·) text (by rw [shape]; simp)
    simpa only [shape, List.getLast_append_singleton, Bool.not_eq_true', Bool.not_eq_false]
      using last

/-- A line break in the later text makes the earlier text irrelevant. -/
theorem after_last_break_of_break (text : Bytes) {more : Bytes}
    (breaks : ∃ byte ∈ more, isLineBreak byte = true) :
    afterLastBreak (text ++ more) = afterLastBreak more := by
  obtain ⟨byte, member, breaks⟩ := breaks
  have stopped : (more.reverse.takeWhile (!isLineBreak ·)).length ≠ more.reverse.length := by
    intro whole
    have same := (List.takeWhile_prefix (!isLineBreak ·)).eq_of_length whole
    have kept := List.takeWhile_eq_self_iff.mp same byte (by simpa using member)
    simp [breaks] at kept
  rw [afterLastBreak, List.reverse_append, List.takeWhile_append, if_neg stopped]
  rfl

/-- Text without a line break is added to the unfinished line. -/
theorem after_last_break_of_line (text : Bytes) {more : Bytes}
    (whole : ∀ byte ∈ more, isLineBreak byte = false) :
    afterLastBreak (text ++ more) = afterLastBreak text ++ more := by
  have kept : ∀ byte ∈ more.reverse, (!isLineBreak byte) = true := by
    intro byte member
    simp [whole byte (by simpa using member)]
  rw [afterLastBreak, List.reverse_append, List.takeWhile_append_of_pos kept,
    List.reverse_append, List.reverse_reverse]
  rfl

theorem after_last_break_of_unbroken {text : Bytes}
    (whole : ∀ byte ∈ text, isLineBreak byte = false) : afterLastBreak text = text := by
  simpa [afterLastBreak] using after_last_break_of_line [] whole

theorem unfinished_eq_rtake (text : Bytes) :
    unfinishedLine text = (afterLastBreak text).rtake readLimit := rfl

theorem unfinished_suffix (text : Bytes) : unfinishedLine text <:+ afterLastBreak text :=
  List.drop_suffix ..

theorem unfinished_suffix_stream (text : Bytes) : unfinishedLine text <:+ text :=
  (unfinished_suffix text).trans (List.rtakeWhile_suffix ..)

theorem unfinished_unbroken {text : Bytes} :
    ∀ byte ∈ unfinishedLine text, isLineBreak byte = false :=
  fun byte member => after_last_break_unbroken byte ((unfinished_suffix text).mem member)

/-- Keeping the end of a list and adding to it keeps the end of the longer list. -/
theorem rtake_append_rtake {α : Type} (n : Nat) (first second : List α) :
    (first.rtake n ++ second).rtake n = (first ++ second).rtake n := by
  have joined : first.rtake n ++ second = (first ++ second).drop (first.length - n) := by
    rw [List.rtake, List.drop_append_of_le_length (by omega)]
  rw [joined, List.rtake, List.rtake, List.drop_drop]
  congr 1
  simp only [List.length_drop, List.length_append]
  omega

/-- The line kept after a read depends on the whole stream only through the line kept before it. -/
theorem unfinished_append (text more : Bytes) :
    unfinishedLine (unfinishedLine text ++ more) = unfinishedLine (text ++ more) := by
  by_cases breaks : ∃ byte ∈ more, isLineBreak byte = true
  · simp only [unfinished_eq_rtake (_ ++ more), after_last_break_of_break _ breaks]
  · have whole : ∀ byte ∈ more, isLineBreak byte = false := by simpa using breaks
    simp only [unfinished_eq_rtake (_ ++ more), after_last_break_of_line _ whole,
      after_last_break_of_unbroken unfinished_unbroken]
    exact rtake_append_rtake readLimit (afterLastBreak text) more

/-- A line within the limit is kept whole. -/
theorem unfinished_of_short {text : Bytes} (short : (afterLastBreak text).length ≤ readLimit) :
    unfinishedLine text = afterLastBreak text := by
  rw [unfinishedLine, Nat.sub_eq_zero_of_le short, List.drop_zero]

end Mosaic
