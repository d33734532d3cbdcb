import Mosaic.Proofs.MarkerSearch
import Mosaic.Proofs.UnfinishedLine

/-! Reading a renderer's output piece by piece. A single stream gives the same tile however it is
cut into reads, provided that its lines stay within the limit and its markers on one line. Two
streams that report on one tile do not: the line that one of them has left unfinished is read again
with its next piece, and an old marker on it replaces what the other stream has reported since. -/
namespace Mosaic
open Marker

/-- A stream whose lines stay within the limit and in which no marker holds a line break. -/
structure Orderly (stream : Bytes) : Prop where
  short : ∀ line, line <:+: stream → (∀ byte ∈ line, isLineBreak byte = false) →
    line.length ≤ readLimit
  render : Pattern.render.Unbroken stream
  parse : Pattern.parse.Unbroken stream

theorem Orderly.of_infix {part whole : Bytes} (orderly : Orderly whole) (inside : part <:+: whole) :
    Orderly part where
  short line within := orderly.short line (within.trans inside)
  render := orderly.render.of_infix inside
  parse := orderly.parse.of_infix inside

theorem Orderly.of_bounded {stream : Bytes} (bounded : stream.length ≤ readLimit)
    (render : Pattern.render.Unbroken stream) (parse : Pattern.parse.Unbroken stream) :
    Orderly stream where
  short _ within _ := within.length_le.trans bounded
  render := render
  parse := parse

/-- An orderly stream loses nothing of its unfinished line. -/
theorem Orderly.kept_whole {stream : Bytes} (orderly : Orderly stream) :
    unfinishedLine stream = afterLastBreak stream :=
  unfinished_of_short
    (orderly.short _ (List.rtakeWhile_suffix ..).isInfix after_last_break_unbroken)

/-! ## Resuming the search -/

/-- The last report in a text, or an earlier one where the text has none. -/
def latest {α : Type} (marker? : Bytes → Option (α × Bytes)) (text : Bytes) (earlier : α) : α :=
  (all marker? text).getLast?.getD earlier

section Resuming
variable {α : Type} {marker? : Bytes → Option (α × Bytes)} {pattern : Pattern}
  {report : List Bytes → α}

/-- The search of a stream is the search of its finished lines and then of the line under way. -/
theorem all_resumed (reads : Reads marker? pattern report) (seen more : Bytes)
    (unbroken : pattern.Unbroken (seen ++ more)) :
    all marker? (seen ++ more) =
      all marker? (finishedLines seen) ++ all marker? (afterLastBreak seen ++ more) := by
  have whole : seen ++ more = finishedLines seen ++ (afterLastBreak seen ++ more) := by
    rw [← List.append_assoc, finished_append_unfinished]
  rw [whole] at unbroken ⊢
  rcases finished_lines_end seen with empty | ⟨before, byte, breaks, shape⟩
  · rw [empty]
    simp [all]
  · rw [shape, List.append_assoc, List.singleton_append] at unbroken ⊢
    have alone := reads.all_at_break breaks before [] (unbroken.of_infix
      ⟨[], afterLastBreak seen ++ more, by simp⟩)
    rw [reads.all_at_break breaks _ _ unbroken, alone]
    simp [all]

theorem all_split (reads : Reads marker? pattern report) {seen : Bytes}
    (unbroken : pattern.Unbroken seen) :
    all marker? seen = all marker? (finishedLines seen) ++ all marker? (afterLastBreak seen) := by
  simpa using all_resumed reads seen [] (by simpa using unbroken)

/-- A read that completes no marker of the stream completes none on the line under way. -/
theorem quiet_resumed (reads : Reads marker? pattern report) {seen read : Bytes}
    (unbroken : pattern.Unbroken (seen ++ read))
    (quiet : all marker? (seen ++ read) = all marker? seen) :
    all marker? (afterLastBreak seen ++ read) = all marker? (afterLastBreak seen) := by
  have past := unbroken.of_infix (List.prefix_append seen read).isInfix
  rw [all_resumed reads seen read unbroken, all_split reads past] at quiet
  exact List.append_cancel_left quiet

/-- Searching the unfinished line again with the next piece gives the last report of everything
read: a marker on the unfinished line is found again, and none of the finished lines is newer. -/
theorem latest_resumed (reads : Reads marker? pattern report) (seen more : Bytes) (earlier : α)
    (unbroken : pattern.Unbroken (seen ++ more)) :
    latest marker? (afterLastBreak seen ++ more) (latest marker? seen earlier) =
      latest marker? (seen ++ more) earlier := by
  have past := unbroken.of_infix (List.prefix_append seen more).isInfix
  simp only [latest, all_resumed reads seen more unbroken, all_split reads past,
    List.getLast?_append]
  cases found : (all marker? (afterLastBreak seen ++ more)).getLast? with
  | some last => rfl
  | none =>
    have nothing : all marker? (afterLastBreak seen) = [] := by
      by_contra something
      exact reads.all_append_ne_nil something more (List.getLast?_eq_none_iff.mp found)
    simp [nothing]

end Resuming

/-- One more read of an orderly stream brings the tile to where the whole stream would. -/
theorem advance_resumed (tile : Tile) (seen read : Bytes) (orderly : Orderly (seen ++ read)) :
    (tile.advance seen).advance (unfinishedLine seen ++ read) = tile.advance (seen ++ read) := by
  rw [(orderly.of_infix (List.prefix_append ..).isInfix).kept_whole]
  have render := latest_resumed render_reads seen read tile.render orderly.render
  have parse := latest_resumed parse_reads seen read tile.parse orderly.parse
  simp only [latest] at render parse
  simp only [Tile.advance, render, parse]

/-! ## One stream -/

/-- One read of an orderly stream: worker, kept line and event all stand where the stream read so
far puts them. -/
theorem absorb_follows {worker : Worker} {tile : Tile} {seen read : Bytes}
    (reached : worker.tile = tile.advance seen) (orderly : Orderly (seen ++ read))
    (isError : Bool) :
    (worker.absorb isError (unfinishedLine seen) read).1.tile = tile.advance (seen ++ read) ∧
      (worker.absorb isError (unfinishedLine seen) read).2.1 = unfinishedLine (seen ++ read) ∧
      (worker.absorb isError (unfinishedLine seen) read).2.2.tile = tile.advance (seen ++ read) := by
  simp only [Worker.absorb, reached, advance_resumed tile seen read orderly, unfinished_append,
    and_self]

/-- Reading on after some reads is reading on with the unfinished line of everything read so far. -/
theorem drainFrom_append (isError : Bool) (reads more : List Bytes) (seen : Bytes) (worker : Worker) :
    Worker.drainFrom isError worker (unfinishedLine seen) (reads ++ more) =
      let past := Worker.drainFrom isError worker (unfinishedLine seen) reads
      let rest := Worker.drainFrom isError past.1 (unfinishedLine (seen ++ reads.flatten)) more
      (rest.1, past.2 ++ rest.2) := by
  induction reads generalizing worker seen with
  | nil => simp [Worker.drainFrom]
  | cons read reads ih =>
    have next := ih (seen ++ read) (worker.absorb isError (unfinishedLine seen) read).1
    have kept : (worker.absorb isError (unfinishedLine seen) read).2.1 =
        unfinishedLine (seen ++ read) := by
      rw [Worker.absorb, unfinished_append]
    simp only [List.cons_append, Worker.drainFrom, kept, next, List.flatten_cons, List.append_assoc]

/-- The rest of an orderly stream, from any point of it. -/
theorem drainFrom_follows (tile : Tile) (isError : Bool) (reads : List Bytes) (seen : Bytes)
    {worker : Worker} (reached : worker.tile = tile.advance seen)
    (orderly : Orderly (seen ++ reads.flatten)) :
    (Worker.drainFrom isError worker (unfinishedLine seen) reads).1.tile =
        tile.advance (seen ++ reads.flatten) ∧
      ∀ k < reads.length,
        ((Worker.drainFrom isError worker (unfinishedLine seen) reads).2[k]?).map (·.tile) =
          some (tile.advance (seen ++ (reads.take (k + 1)).flatten)) := by
  induction reads generalizing worker seen with
  | nil => simpa [Worker.drainFrom] using reached
  | cons read more ih =>
    rw [List.flatten_cons, ← List.append_assoc] at orderly ⊢
    obtain ⟨next, kept, event⟩ :=
      absorb_follows reached (orderly.of_infix (List.prefix_append ..).isInfix) isError
    obtain ⟨final, events⟩ := ih _ next orderly
    simp only [Worker.drainFrom, kept]
    refine ⟨final, fun k bound => ?_⟩
    cases k with
    | zero => simpa using event
    | succ k =>
      have later := events k (by simpa using bound)
      simpa [List.append_assoc] using later

/-- However an orderly stream is cut into reads, the tile after each read is the one that the text
read so far gives when it is searched once, in the worker as in the event. So two ways of cutting
one stream lead to the same tile. -/
theorem reading_ignores_cuts (worker : Worker) (isError : Bool) (reads : List Bytes)
    (orderly : Orderly reads.flatten) :
    (∀ k ≤ reads.length, (worker.drain isError (reads.take k)).1.tile =
        worker.tile.advance (reads.take k).flatten) ∧
      (∀ k < reads.length, ((worker.drain isError reads).2[k]?).map (·.tile) =
        some (worker.tile.advance (reads.take (k + 1)).flatten)) ∧
      ∀ others : List Bytes, others.flatten = reads.flatten →
        (worker.drain isError others).1.tile = (worker.drain isError reads).1.tile := by
  have start : worker.tile = worker.tile.advance [] := by simp [Tile.advance, all]
  have follows := fun (cut : List Bytes) (part : cut.flatten <:+: reads.flatten) =>
    drainFrom_follows worker.tile isError cut [] start (orderly.of_infix part)
  refine ⟨fun k _ => ?_, (follows reads (List.infix_refl _)).2, fun others same => ?_⟩
  · have part : (reads.take k).flatten <:+: reads.flatten := by
      nth_rewrite 2 [← List.take_append_drop k reads]
      rw [List.flatten_append]
      exact (List.prefix_append ..).isInfix
    exact (follows _ part).1
  · have whole := (follows others (same ▸ List.infix_refl _)).1
    rw [same] at whole
    exact whole.trans (follows reads (List.infix_refl _)).1.symm

/-- A marker cut inside its number, and a line break cut off from what follows it. -/
def cutMarker : List Bytes := ["0:0:1 Parsing 1", "2K\n", "."].map .ofString

theorem reading_ignores_cut_marker :
    Orderly cutMarker.flatten ∧
      (({} : Worker).drain false (cutMarker.take 2)).1.tile =
        ({} : Tile).advance (cutMarker.take 2).flatten ∧
      (({} : Worker).drain false [cutMarker.flatten]).1.tile =
        (({} : Worker).drain false cutMarker).1.tile := by
  have orderly : Orderly cutMarker.flatten :=
    .of_bounded (by decide +kernel) (by decide +kernel) (by decide +kernel)
  obtain ⟨each, -, same⟩ := reading_ignores_cuts {} false cutMarker orderly
  exact ⟨orderly, each 2 (by decide), same [cutMarker.flatten] (by simp)⟩

/-! ## Two streams -/

/-- What one of the two streams has written so far. -/
def heard (isError : Bool) (history : List (Bool × Bytes)) : Bytes :=
  (history.filter (·.1 == isError)).flatMap (·.2)

/-- The line that is kept of one of the two streams. -/
def Running.kept (running : Running) (isError : Bool) : Bytes :=
  if isError then running.keptError else running.keptOutput

theorem read_advances (running : Running) (isError : Bool) (text : Bytes) :
    (running.read isError text).1.worker.tile =
      running.worker.tile.advance (running.kept isError ++ text) := by
  cases isError <;> rfl

theorem read_keeps (running : Running) (isError other : Bool) (text : Bytes) :
    (running.read isError text).1.kept other =
      if isError = other then unfinishedLine (running.kept isError ++ text)
      else running.kept other := by
  cases isError <;> cases other <;> simp [Running.read, Running.kept, Worker.absorb]

theorem heard_cons (isError other : Bool) (text : Bytes) (history : List (Bool × Bytes)) :
    heard other ((isError, text) :: history) =
      (if isError = other then text else []) ++ heard other history := by
  cases isError <;> cases other <;> rfl

theorem readAll_cons (running : Running) (isError : Bool) (text : Bytes)
    (history : List (Bool × Bytes)) :
    (running.readAll ((isError, text) :: history)).1 =
      ((running.read isError text).1.readAll history).1 := rfl

theorem read_keeps_unfinished {running : Running} {seen : Bool → Bytes}
    (kept : ∀ stream, running.kept stream = unfinishedLine (seen stream)) (isError : Bool)
    (text : Bytes) (stream : Bool) :
    (running.read isError text).1.kept stream =
      unfinishedLine (seen stream ++ if isError = stream then text else []) := by
  rw [read_keeps]
  split
  · rename_i same
    subst same
    rw [kept, unfinished_append]
  · rw [kept, List.append_nil]

/-- However the reads of the two streams are mixed, the line kept of each is the unfinished line of
what that stream has written. -/
theorem readAll_keeps (history : List (Bool × Bytes)) {running : Running} {seen : Bool → Bytes}
    (kept : ∀ stream, running.kept stream = unfinishedLine (seen stream)) (stream : Bool) :
    (running.readAll history).1.kept stream =
      unfinishedLine (seen stream ++ heard stream history) := by
  induction history generalizing running seen with
  | nil => simpa [Running.readAll, heard] using kept stream
  | cons entry history ih =>
    obtain ⟨isError, text⟩ := entry
    rw [readAll_cons, heard_cons, ← List.append_assoc]
    exact @ih _ (fun other => seen other ++ if isError = other then text else [])
      (read_keeps_unfinished kept isError text)

/-- Every report of the text that would count, the last of each kind, is the one that the tile holds
already. -/
def Tile.Agrees (tile : Tile) (text : Bytes) : Prop :=
  (∀ report ∈ (all render? text).getLast?, report = tile.render) ∧
    ∀ report ∈ (all parse? text).getLast?, report = tile.parse

/-- A text leaves a tile as it is exactly if it says nothing else. -/
theorem advance_eq_self_iff (tile : Tile) (text : Bytes) :
    tile.advance text = tile ↔ tile.Agrees text := by
  have unchanged : ∀ {α : Type} (last : Option α) (held : α),
      last.getD held = held ↔ ∀ report ∈ last, report = held := by
    intro α last held
    cases last <;> simp
  rw [Tile.Agrees, ← unchanged, ← unchanged]
  constructor
  · intro same
    exact ⟨congrArg Tile.render same, congrArg Tile.parse same⟩
  · rintro ⟨render, parse⟩
    rw [Tile.advance, render, parse]

/-- When the other stream has reported nothing, the tile stands where the reporting stream alone
would have put it. -/
theorem readAll_follows (tile : Tile) (stream : Bool) (history : List (Bool × Bytes))
    {running : Running} {seen : Bool → Bytes}
    (reached : running.worker.tile = tile.advance (seen stream))
    (kept : ∀ other, running.kept other = unfinishedLine (seen other))
    (orderly : Orderly (seen stream ++ heard stream history))
    (render : all render? (seen (!stream) ++ heard (!stream) history) = [])
    (parse : all parse? (seen (!stream) ++ heard (!stream) history) = []) :
    (running.readAll history).1.worker.tile = tile.advance (seen stream ++ heard stream history) := by
  induction history generalizing running seen with
  | nil => simpa [Running.readAll, heard] using reached
  | cons entry history ih =>
    obtain ⟨isError, text⟩ := entry
    rw [heard_cons, ← List.append_assoc] at orderly render parse ⊢
    rw [readAll_cons]
    have keeps := read_keeps_unfinished kept isError text
    refine @ih _ (fun other => seen other ++ if isError = other then text else []) ?_ keeps orderly
      render parse
    rw [read_advances, reached, kept]
    by_cases own : isError = stream
    · subst own
      rw [if_pos rfl] at orderly ⊢
      exact advance_resumed tile _ text (orderly.of_infix (List.prefix_append ..).isInfix)
    · obtain rfl : isError = !stream := Bool.eq_not.mpr own
      rw [if_pos rfl] at render parse
      -- The other stream has written no marker, so there is none in what is searched again.
      have inside : unfinishedLine (seen (!stream)) ++ text <:+:
          seen (!stream) ++ text ++ heard (!stream) history := by
        obtain ⟨finished, whole⟩ := unfinished_suffix_stream (seen (!stream))
        exact ⟨finished, heard (!stream) history, by rw [← List.append_assoc, whole]⟩
      simp [Tile.advance, render_reads.all_nil_of_infix inside render,
        parse_reads.all_nil_of_infix inside parse]

/-- A read that adds no marker to its own stream leaves the tile as it is exactly if the search of
the kept line together with the read says what the tile holds already. On an orderly stream what it
says is on the kept line alone, so the read brings back the reports of that line, however old they
are. It changes nothing when all reports come from its own stream. -/
theorem quiet_read_effect (worker : Worker) (history : List (Bool × Bytes)) (isError : Bool)
    (read : Bytes)
    (render : all render? (heard isError history ++ read) = all render? (heard isError history))
    (parse : all parse? (heard isError history ++ read) = all parse? (heard isError history)) :
    let before := (Running.readAll { worker } history).1
    let after := (before.read isError read).1
    let line := unfinishedLine (heard isError history)
    (after.worker.tile = before.worker.tile ↔ before.worker.tile.Agrees (line ++ read)) ∧
      (Orderly (heard isError history ++ read) →
        after.worker.tile = before.worker.tile.advance line ∧
        (after.worker.tile = before.worker.tile ↔ before.worker.tile.Agrees line) ∧
        (all render? (heard (!isError) history) = [] → all parse? (heard (!isError) history) = [] →
          after.worker.tile = before.worker.tile)) := by
  intro before after line
  have fresh : ∀ stream, Running.kept { worker } stream = unfinishedLine ((fun _ => []) stream) := by
    intro stream
    cases stream <;> rfl
  have keeps : before.kept isError = line := by simpa using readAll_keeps history fresh isError
  have effect : after.worker.tile = before.worker.tile.advance (line ++ read) := by
    rw [read_advances, keeps]
  refine ⟨by rw [effect, advance_eq_self_iff], fun orderly => ?_⟩
  have past := orderly.of_infix (List.prefix_append (heard isError history) read).isInfix
  have again : after.worker.tile = before.worker.tile.advance line := by
    rw [effect]
    simp only [line, past.kept_whole, Tile.advance, quiet_resumed render_reads orderly.render render,
      quiet_resumed parse_reads orderly.parse parse]
  refine ⟨again, by rw [again, advance_eq_self_iff], fun noRender noParse => ?_⟩
  have stands : before.worker.tile = worker.tile.advance (heard isError history) := by
    simpa using readAll_follows worker.tile isError history (by simp [Tile.advance, all]) fresh
      (by simpa using past) (by simpa using noRender) (by simpa using noParse)
  rw [effect, stands, advance_resumed _ _ _ orderly]
  simp only [Tile.advance, render, parse]

/-- One stream reports a line and leaves its own line unfinished; then the other reports a later
line. -/
def crossingReports : List (Bool × Bytes) :=
  [(false, .ofString "0:0:5 Rendering line 50 of 99"),
    (true, .ofString "0:0:9 Rendering line 90 of 99\n")]

theorem quiet_read_effect_on_crossing_reports :
    let before := (Running.readAll { worker := {} } crossingReports).1
    let read := Bytes.ofString "."
    all render? (heard false crossingReports ++ read) = all render? (heard false crossingReports) ∧
      all parse? (heard false crossingReports ++ read) = all parse? (heard false crossingReports) ∧
      Orderly (heard false crossingReports ++ read) ∧
      (before.read false read).1.worker.tile =
        before.worker.tile.advance (unfinishedLine (heard false crossingReports)) := by
  have render : all render? (heard false crossingReports ++ Bytes.ofString ".") =
      all render? (heard false crossingReports) := by decide +kernel
  have parse : all parse? (heard false crossingReports ++ Bytes.ofString ".") =
      all parse? (heard false crossingReports) := by decide +kernel
  have orderly : Orderly (heard false crossingReports ++ Bytes.ofString ".") :=
    .of_bounded (by decide +kernel) (by decide +kernel) (by decide +kernel)
  obtain ⟨-, effect⟩ := quiet_read_effect {} crossingReports false (.ofString ".") render parse
  exact ⟨render, parse, orderly, (effect orderly).1⟩

/-- A stale report comes back: a full stop on the first stream completes no marker, and yet it takes
the tile from line 90 back to line 50. -/
theorem stale_report_returns :
    let before := (Running.readAll { worker := {} } crossingReports).1
    let after := (before.read false (.ofString ".")).1
    all render? (heard false crossingReports ++ .ofString ".") =
        all render? (heard false crossingReports) ∧
      all parse? (heard false crossingReports ++ .ofString ".") =
        all parse? (heard false crossingReports) ∧
      before.worker.tile.render.line = 90 ∧ after.worker.tile.render.line = 50 := by
  decide +kernel

end Mosaic
