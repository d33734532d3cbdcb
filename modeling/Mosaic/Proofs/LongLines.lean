import Mosaic.Proofs.StreamReading

/-! Where the numbers of a tile come from. Each report that a worker holds was a marker of its
stream, but not always a whole one. Only the end of a line beyond the limit is kept, so the search
may begin in the middle of an hour; and a marker that ends with a read may be let go before the rest
of its last number arrives. Nothing else can be cut off, and of an orderly stream nothing is. -/
namespace Mosaic
open Marker

/-- A line of the stream had grown beyond the limit when a read began, and everything in front of the
bytes that were still kept of it was this. -/
def CutAfter (reads : List Bytes) (front : Bytes) : Prop :=
  ∃ earlier later, reads = earlier ++ later ∧ later ≠ [] ∧
    earlier.flatten = front ++ unfinishedLine earlier.flatten ∧
    readLimit < (afterLastBreak earlier.flatten).length

/-- A read ended with this marker, and not all of the marker was kept for the next one. -/
def LetGo (reads : List Bytes) (front marked : Bytes) : Prop :=
  ∃ earlier later, reads = earlier ++ later ∧ later ≠ [] ∧ earlier.flatten = front ++ marked ∧
    ¬ marked <:+ unfinishedLine earlier.flatten

/-- The reads hold a marker with these numbers. Its first number is whole unless a line was cut right
there, and its last number unless the marker was let go at its end. -/
def Marker.Pattern.Met (pattern : Pattern) (reads : List Bytes) (groups : List Bytes) : Prop :=
  ∃ front marked rest, reads.flatten = front ++ marked ++ rest ∧
    Spelled pattern.pieces marked groups ∧
    (Starts front ∨ CutAfter reads front) ∧
    (Stops pattern.pieces rest ∨ LetGo reads front marked)

theorem CutAfter.append {reads : List Bytes} {front : Bytes} (cut : CutAfter reads front)
    (more : List Bytes) : CutAfter (reads ++ more) front := by
  obtain ⟨earlier, later, rfl, nonempty, split, long⟩ := cut
  exact ⟨earlier, later ++ more, by simp, by simp [nonempty], split, long⟩

theorem LetGo.append {reads : List Bytes} {front marked : Bytes} (gone : LetGo reads front marked)
    (more : List Bytes) : LetGo (reads ++ more) front marked := by
  obtain ⟨earlier, later, rfl, nonempty, split, lost⟩ := gone
  exact ⟨earlier, later ++ more, by simp, by simp [nonempty], split, lost⟩

/-- What is searched begins after a line break, unless the line before it is beyond the limit. -/
theorem kept_line_starts (past : List Bytes) (read : Bytes) {front : Bytes}
    (split : front ++ unfinishedLine past.flatten = past.flatten) :
    Starts front ∨ CutAfter (past ++ [read]) front := by
  by_cases short : (afterLastBreak past.flatten).length ≤ readLimit
  · left
    rw [unfinished_of_short short] at split
    have finished : front = finishedLines past.flatten :=
      List.append_cancel_right (split.trans (finished_append_unfinished _).symm)
    rcases finished_lines_end past.flatten with empty | ⟨before, byte, breaks, shape⟩
    · simp [Starts, finished, empty]
    · simp [Starts, finished, shape, line_break_ends_digits breaks]
  · exact .inr ⟨past, [read], rfl, by simp, split.symm, by omega⟩

section Reading
variable {α : Type} {marker? : Bytes → Option (α × Bytes)} {pattern : Pattern}
  {report : List Bytes → α}

/-- A whole marker of what is searched is a marker of the stream. -/
theorem Marker.Pattern.Whole.met {past : List Bytes} {read : Bytes} {groups : List Bytes}
    (whole : pattern.Whole (unfinishedLine past.flatten ++ read) groups) :
    pattern.Met (past ++ [read]) groups := by
  obtain ⟨front, marked, rest, searched, spelled, starts, stops⟩ := whole
  obtain ⟨dropped, split⟩ := unfinished_suffix_stream past.flatten
  refine ⟨dropped ++ front, marked, rest, ?_, spelled, ?_, .inl stops⟩
  · rw [List.flatten_append, ← split, List.append_assoc, List.flatten_singleton, searched]
    simp only [List.append_assoc]
  · by_cases first : front = []
    · rw [first, List.append_nil]
      exact kept_line_starts past read split
    · exact .inl (starts.of_append dropped first)

/-- A read in which nothing is found leaves a marker of the stream one: had it been kept to its end, it
would have been found again. -/
theorem Marker.Pattern.Met.quiet (reads : Reads marker? pattern report) {past : List Bytes}
    {read : Bytes} {groups : List Bytes} (source : pattern.Met past groups)
    (nothing : all marker? (unfinishedLine past.flatten ++ read) = []) :
    pattern.Met (past ++ [read]) groups := by
  obtain ⟨front, marked, rest, split, spelled, first, last⟩ := source
  refine ⟨front, marked, rest ++ read, by simp [split], spelled,
    first.imp_right (·.append [read]), ?_⟩
  rcases last with stops | gone
  · by_cases ended : rest = []
    · subst ended
      rw [List.append_nil] at split
      refine .inr ⟨past, [read], rfl, by simp, split, fun kept => ?_⟩
      have inside : marked <:+: unfinishedLine past.flatten ++ read :=
        kept.isInfix.trans (List.prefix_append ..).isInfix
      have found := reads.all_of_some ((reads.some_iff marked [] (report groups)).mpr
        ⟨marked, groups, by simp, spelled, by simp [Stops], rfl⟩)
      rw [reads.all_nil_of_infix inside nothing] at found
      cases found
    · exact .inl (stops.append ended read)
  · exact .inr (gone.append [read])

/-- One more read: what is held then is still the initial report or one of a marker that was read. -/
theorem latest_met (reads : Reads marker? pattern report) (past : List Bytes) (read : Bytes)
    {initial held : α}
    (source : held = initial ∨ ∃ groups, pattern.Met past groups ∧ report groups = held) :
    latest marker? (unfinishedLine past.flatten ++ read) held = initial ∨
      ∃ groups, pattern.Met (past ++ [read]) groups ∧
        report groups = latest marker? (unfinishedLine past.flatten ++ read) held := by
  unfold latest
  cases last : (all marker? (unfinishedLine past.flatten ++ read)).getLast? with
  | some found =>
    obtain ⟨groups, whole, same⟩ := reads.whole_of_mem (List.mem_of_getLast? last)
    exact .inr ⟨groups, whole.met, same⟩
  | none =>
    have nothing := List.getLast?_eq_none_iff.mp last
    refine source.imp_right ?_
    rintro ⟨groups, earlier, same⟩
    exact ⟨groups, earlier.quiet reads nothing, same⟩

/-- Of an orderly stream no number is cut off. -/
theorem Marker.Pattern.Met.whole {past : List Bytes} {groups : List Bytes}
    (source : pattern.Met past groups) (orderly : Orderly past.flatten)
    (unbroken : pattern.Unbroken past.flatten) : pattern.Whole past.flatten groups := by
  obtain ⟨front, marked, rest, split, spelled, first, last⟩ := source
  refine ⟨front, marked, rest, split, spelled, first.resolve_right ?_, last.resolve_right ?_⟩
  · rintro ⟨earlier, later, rfl, -, -, long⟩
    have part : afterLastBreak earlier.flatten <:+: (earlier ++ later).flatten := by
      rw [List.flatten_append]
      exact (List.rtakeWhile_suffix ..).isInfix.trans (List.prefix_append ..).isInfix
    exact absurd (orderly.short _ part after_last_break_unbroken) (by omega)
  · rintro ⟨earlier, later, rfl, -, ended, lost⟩
    have inside : marked <:+: (earlier ++ later).flatten := by
      rw [split, List.append_assoc]
      exact ⟨front, rest, by simp⟩
    have oneLine := unbroken marked inside ⟨groups, spelled⟩
    have part : earlier.flatten <:+: (earlier ++ later).flatten := by
      rw [List.flatten_append]
      exact (List.prefix_append ..).isInfix
    rw [(orderly.of_infix part).kept_whole, ended, after_last_break_of_line front oneLine] at lost
    exact lost (List.suffix_append ..)

end Reading

/-- One read more at the end of a stream. -/
theorem drainFrom_concat (isError : Bool) (past : List Bytes) (read seen : Bytes) (worker : Worker) :
    (Worker.drainFrom isError worker (unfinishedLine seen) (past ++ [read])).1.tile =
      (Worker.drainFrom isError worker (unfinishedLine seen) past).1.tile.advance
        (unfinishedLine (seen ++ past.flatten) ++ read) := by
  simp only [drainFrom_append, Worker.drainFrom, Worker.absorb]

/-- After any reads, lines of whatever length and cuts wherever they fall, the worker holds its
initial reports or those of markers that it has read. A first number can have been cut off only where
a line beyond the limit was, and a last one only where a marker was let go at the end of a read. Of
an orderly stream neither is. -/
theorem held_reports_were_met (worker : Worker) (isError : Bool) (reads : List Bytes) :
    let tile := (worker.drain isError reads).1.tile
    (tile.render = worker.tile.render ∨
        ∃ groups, Pattern.render.Met reads groups ∧ renderReport groups = tile.render) ∧
      (tile.parse = worker.tile.parse ∨
        ∃ groups, Pattern.parse.Met reads groups ∧ parseReport groups = tile.parse) ∧
      (Orderly reads.flatten →
        (tile.render = worker.tile.render ∨
          ∃ groups, Pattern.render.Whole reads.flatten groups ∧
            renderReport groups = tile.render) ∧
        (tile.parse = worker.tile.parse ∨
          ∃ groups, Pattern.parse.Whole reads.flatten groups ∧
            parseReport groups = tile.parse)) := by
  intro tile
  have sources : (tile.render = worker.tile.render ∨
        ∃ groups, Pattern.render.Met reads groups ∧ renderReport groups = tile.render) ∧
      (tile.parse = worker.tile.parse ∨
        ∃ groups, Pattern.parse.Met reads groups ∧ parseReport groups = tile.parse) := by
    induction reads using List.reverseRecOn with
    | nil => exact ⟨.inl rfl, .inl rfl⟩
    | append_singleton past read ih =>
      have step : tile = (worker.drain isError past).1.tile.advance
          (unfinishedLine past.flatten ++ read) :=
        drainFrom_concat isError past read [] worker
      rw [step]
      exact ⟨latest_met render_reads past read ih.1, latest_met parse_reads past read ih.2⟩
  refine ⟨sources.1, sources.2, fun orderly => ⟨sources.1.imp_right ?_, sources.2.imp_right ?_⟩⟩
  · rintro ⟨groups, source, same⟩
    exact ⟨groups, source.whole orderly orderly.render, same⟩
  · rintro ⟨groups, source, same⟩
    exact ⟨groups, source.whole orderly orderly.parse, same⟩

theorem cut_marker_held_reports :
    Orderly cutMarker.flatten ∧
      ∃ groups, Pattern.parse.Whole cutMarker.flatten groups ∧
        parseReport groups = (({} : Worker).drain false cutMarker).1.tile.parse := by
  have orderly : Orderly cutMarker.flatten :=
    .of_bounded (by decide +kernel) (by decide +kernel) (by decide +kernel)
  obtain ⟨-, -, whole⟩ := held_reports_were_met {} false cutMarker
  exact ⟨orderly, (whole orderly).2.resolve_left (by decide +kernel)⟩

-- A last number is cut off: the marker holds a line break and is let go before its 12 is complete.
example :
    let reads := ["0:0:1 Rendering line 1 of\n1", "2"].map Bytes.ofString
    (({} : Worker).drain false reads).1.tile.render =
      renderReport (["0", "0", "1", "1", "1"].map Bytes.ofString) := by decide +kernel

/-- A marker at the front of a line. -/
def frontMarker : Bytes := .ofString "12:00:05 Rendering line 50 of 100"

/-- The line of the marker, filled up to the limit with the letter x and then outgrowing it. -/
def outgrownLine : List Bytes := [frontMarker ++ List.replicate 4063 120, [120], [120]]

/-- The only whole marker of the line is the one at its front. -/
theorem outgrown_line_hour {groups : List Bytes}
    (whole : Pattern.render.Whole outgrownLine.flatten groups) :
    (renderReport groups).elapsed.hour = 12 := by
  obtain ⟨front, marked, rest, split, spelled, starts, stops⟩ := whole
  have line : outgrownLine.flatten = frontMarker ++ List.replicate (4063 + 1 + 1) 120 := by
    rw [List.replicate_succ', List.replicate_succ']
    simp only [outgrownLine, List.flatten_cons, List.flatten_nil, List.append_nil, List.append_assoc]
  rw [line, List.append_assoc] at split
  have read := (render_reads.some_iff (marked ++ rest) rest _).mpr
    ⟨marked, groups, rfl, spelled, stops, rfl⟩
  rcases List.append_eq_append_iff.mp split with ⟨filling, rfl, beyond⟩ | ⟨left, shape, later⟩
  · -- Among the filling no marker begins.
    obtain ⟨byte, tail, rfl, digit⟩ := Pattern.render.begins_with_digit spelled
    have filled : byte ∈ List.replicate (4063 + 1 + 1) (120 : UInt8) := by rw [beyond]; simp
    rw [List.eq_of_mem_replicate filled] at digit
    cases digit
  · have each : ∀ n ≤ frontMarker.length, Starts (frontMarker.take n) →
        ∀ found ∈ render? (frontMarker.drop n ++ List.replicate (4063 + 1 + 1) 120),
          found.1.elapsed.hour = 12 := by decide +kernel
    have found := each front.length (by simp [shape])
    rw [shape, List.take_left, List.drop_left, ← later, read] at found
    exact found starts _ rfl

/-- A clock is held with its first digit cut off: of the hour 12, which is the only one in the line,
2 is left after the third read. -/
theorem cut_clock_is_held :
    let tile := (({} : Worker).drain false outgrownLine).1.tile
    (∀ read ∈ outgrownLine, read.length ≤ readLimit) ∧
      tile.render = renderReport (["2", "00", "05", "50", "100"].map Bytes.ofString) ∧
      ¬ (tile.render = ({} : Worker).tile.render ∨
        ∃ groups, Pattern.render.Whole outgrownLine.flatten groups ∧
          renderReport groups = tile.render) := by
  intro tile
  have held : tile.render = renderReport (["2", "00", "05", "50", "100"].map Bytes.ofString) := by
    decide +kernel
  have bounded : ∀ read ∈ outgrownLine, read.length ≤ readLimit := by
    intro read member
    simp only [outgrownLine, List.mem_cons, List.not_mem_nil, or_false] at member
    have front : frontMarker.length = 33 := by decide +kernel
    rcases member with rfl | rfl | rfl <;>
      simp only [List.length_append, List.length_replicate, List.length_singleton, front, readLimit] <;>
      omega
  refine ⟨bounded, held, ?_⟩
  rw [held]
  rintro (initial | ⟨groups, whole, same⟩)
  · exact absurd initial (by decide +kernel)
  · have hour := outgrown_line_hour whole
    rw [same] at hour
    exact absurd hour (by decide +kernel)

end Mosaic
