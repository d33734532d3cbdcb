import Mosaic.Proofs.StreamReading

/-! The line that is kept between reads, without any bound on the length of lines. It depends on what a
stream has written and not on how that was cut into reads, also when it has outgrown the limit many
times over: it is always the end of the line under way, as much of it as may be kept. -/
namespace Mosaic

/-- The line under way in a stream: it has no line break, and what stands before it is nothing or ends
in one. -/
structure UnderWay (stream line : Bytes) : Prop where
  behind : ∃ finished, stream = finished ++ line ∧
    ∀ last ∈ finished.getLast?, isLineBreak last = true
  unbroken : ∀ byte ∈ line, isLineBreak byte = false

theorem underWay_after_last_break (stream : Bytes) : UnderWay stream (afterLastBreak stream) := by
  refine ⟨⟨finishedLines stream, (finished_append_unfinished stream).symm, ?_⟩,
    after_last_break_unbroken⟩
  intro last member
  rcases finished_lines_end stream with empty | ⟨before, byte, breaks, shape⟩
  · simp [empty] at member
  · rw [shape, List.getLast?_concat, Option.mem_some] at member
    rwa [← member]

/-- There is one line under way. -/
theorem UnderWay.eq_after_last_break {stream line : Bytes} (underWay : UnderWay stream line) :
    afterLastBreak stream = line := by
  obtain ⟨finished, rfl, ends⟩ := underWay.behind
  rw [after_last_break_of_line finished underWay.unbroken]
  rcases List.eq_nil_or_concat' finished with rfl | ⟨before, byte, rfl⟩
  · rfl
  · have breaks : isLineBreak byte = true := ends byte (by simp)
    rw [after_last_break_of_break before ⟨byte, by simp, breaks⟩]
    simp [afterLastBreak, breaks]

theorem unfinished_length_le (stream : Bytes) : (unfinishedLine stream).length ≤ readLimit := by
  rw [unfinishedLine, List.length_drop]
  omega

/-- The kept line is a function of the stream alone. After any reads, of one stream by itself or of
both in any order, what is kept is the unfinished line of everything that the stream has written. It
ends the stream, has no line break, stays within the limit, and is the line under way but for what
exceeds the limit at its front. -/
theorem kept_line_depends_on_stream_alone :
    (∀ text more : Bytes,
      unfinishedLine (unfinishedLine text ++ more) = unfinishedLine (text ++ more)) ∧
    (∀ (worker : Worker) (isError : Bool) (reads more : List Bytes),
      worker.drain isError (reads ++ more) =
        let past := worker.drain isError reads
        let rest := Worker.drainFrom isError past.1 (unfinishedLine reads.flatten) more
        (rest.1, past.2 ++ rest.2)) ∧
    (∀ (worker : Worker) (history : List (Bool × Bytes)) (isError : Bool),
      (Running.readAll { worker } history).1.kept isError =
        unfinishedLine (heard isError history)) ∧
    ∀ stream : Bytes,
      let kept := unfinishedLine stream
      kept <:+ stream ∧ (∀ byte ∈ kept, byte ≠ 10 ∧ byte ≠ 13) ∧ kept.length ≤ 4096 ∧
        ∃ line, UnderWay stream line ∧ kept = line.drop (line.length - 4096) ∧
          (line.length ≤ 4096 → kept = line) ∧ ∀ other, UnderWay stream other → other = line := by
  refine ⟨unfinished_append, fun worker isError reads more => ?_,
    fun worker history isError => ?_, fun stream => ?_⟩
  · exact drainFrom_append isError reads more [] worker
  · have fresh : ∀ stream, Running.kept { worker } stream = unfinishedLine ((fun _ => []) stream) := by
      intro stream
      cases stream <;> rfl
    simpa using readAll_keeps history fresh isError
  · intro kept
    refine ⟨unfinished_suffix_stream stream, fun byte member => ?_, unfinished_length_le stream,
      afterLastBreak stream, underWay_after_last_break stream, rfl, unfinished_of_short, ?_⟩
    · have plain := unfinished_unbroken byte member
      simpa [isLineBreak] using plain
    · intro other underWay
      exact underWay.eq_after_last_break.symm

end Mosaic
