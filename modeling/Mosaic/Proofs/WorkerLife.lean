import Mosaic.Proofs.StreamReading
import Mosaic.Session

/-! The life of a worker. It is started, its process is launched or cannot be, its two streams are read
in whatever order they bring something, and the process ends. Whatever happens, the worker passes from
idle over starting and running to one last state, sends an output for each read and then one event
that ends its tile, and keeps what that event says. -/
namespace Mosaic

/-! ## What befalls a worker -/

/-- Something that can happen to a worker. -/
inductive Incident where
  | start
  | launch
  | reject (failure : Failure)
  | read (isError : Bool) (text : Bytes)
  | stop (ending : Ending)

/-- What happens to a worker from its start to its end. -/
def Fate.incidents : Fate → List Incident
  | .notLaunched failure => [.start, .reject failure]
  | .launched reads ending =>
    [.start, .launch] ++ reads.map (fun read => .read read.1 read.2) ++ [.stop ending]

/-- What is read of the streams, in order. -/
def Fate.reads : Fate → List (Bool × Bytes)
  | .notLaunched _ => []
  | .launched reads _ => reads

/-- The code with which the process exits, if it exits normally. -/
def Fate.exitCode? : Fate → Option Int64
  | .launched _ (.exited code) => some code
  | _ => none

/-- What went wrong, unless the process exits normally. -/
def Fate.failure? : Fate → Option Failure
  | .notLaunched failure => some failure
  | .launched _ (.broken failure) => some failure
  | .launched _ (.exited _) => none

/-- Whether the process is launched. -/
def Fate.isLaunched : Fate → Bool
  | .notLaunched _ => false
  | .launched .. => true

theorem ne_of_isTerminal {state : WorkerState} (ended : state.isTerminal = true) (early : WorkerState)
    (unended : early.isTerminal = false) : state ≠ early := by
  rintro rfl
  rw [ended] at unended
  cases unended

namespace Running

/-- Lets something happen to a worker. It takes effect only in the state in which it can happen: a
worker is launched when it has been started, and it is read and ended while its process runs. -/
def undergo (running : Running) : Incident → Running × List Event
  | .start => ({ running with worker := running.worker.start }, [])
  | .launch => if running.worker.state = .starting then Run.enter running else (running, [])
  | .reject failure =>
    if running.worker.state = .starting then Run.reject failure running else (running, [])
  | .read isError text =>
    if running.worker.state = .running then
      let (running, event) := running.read isError text
      (running, [event])
    else (running, [])
  | .stop ending => Run.close ending running

/-- Lets things happen in order. -/
def undergoAll : Running → List Incident → Running × List Event
  | running, [] => (running, [])
  | running, incident :: more =>
    let (running, events) := running.undergo incident
    let (running, later) := running.undergoAll more
    (running, events ++ later)

/-- The states of a worker after each of the things that happen to it. -/
def passage : Running → List Incident → List WorkerState
  | _, [] => []
  | running, incident :: more =>
    (running.undergo incident).1.worker.state :: (running.undergo incident).1.passage more

theorem undergoAll_append (running : Running) (incidents more : List Incident) :
    running.undergoAll (incidents ++ more) =
      (((running.undergoAll incidents).1.undergoAll more).1,
        (running.undergoAll incidents).2 ++ ((running.undergoAll incidents).1.undergoAll more).2) := by
  induction incidents generalizing running with
  | nil => simp [undergoAll]
  | cons incident rest ih => simp [undergoAll, ih]

theorem passage_append (running : Running) (incidents more : List Incident) :
    running.passage (incidents ++ more) =
      running.passage incidents ++ (running.undergoAll incidents).1.passage more := by
  induction incidents generalizing running with
  | nil => rfl
  | cons incident rest ih => simp [passage, undergoAll, ih]

/-- A worker that has ended takes no notice of anything. -/
theorem undergo_terminal {running : Running} (ended : running.worker.state.isTerminal = true)
    (incident : Incident) : running.undergo incident = (running, []) := by
  have notIdle := ne_of_isTerminal ended .idle rfl
  have notStarting := ne_of_isTerminal ended .starting rfl
  have notRunning := ne_of_isTerminal ended .running rfl
  cases incident <;>
    simp [undergo, Worker.start, Run.close, notIdle, notStarting, notRunning]

theorem undergoAll_terminal {running : Running} (ended : running.worker.state.isTerminal = true)
    (incidents : List Incident) :
    running.undergoAll incidents = (running, []) ∧
      running.passage incidents = List.replicate incidents.length running.worker.state := by
  induction incidents with
  | nil => exact ⟨rfl, rfl⟩
  | cons incident more ih =>
    obtain ⟨same, states⟩ := ih
    simp only [undergoAll, passage, undergo_terminal ended incident, same, states, List.nil_append]
    exact ⟨trivial, rfl⟩

end Running

/-! ## Reading -/

/-- The tile of the last event, or an earlier one where there is none. -/
def lastTile (earlier : Tile) (events : List Event) : Tile :=
  (events.getLast?.map (·.tile)).getD earlier

theorem lastTile_cons (earlier : Tile) (event : Event) (more : List Event) :
    lastTile earlier (event :: more) = lastTile event.tile more := by
  cases more with
  | nil => rfl
  | cons second others => simp [lastTile, List.getLast?_cons]

/-- The tile without what has been reported on it. -/
def Tile.blank (tile : Tile) : Tile := { tile with render := {}, parse := {} }

theorem lastTile_blank {earlier : Tile} {events : List Event}
    (alike : ∀ event ∈ events, event.tile.blank = earlier.blank) :
    (lastTile earlier events).blank = earlier.blank := by
  rw [lastTile]
  cases found : events.getLast? with
  | none => rfl
  | some last => exact alike last (List.mem_of_getLast? found)

/-- Reading changes only the tile of a worker, and the event of a read carries the read and the tile
that it leaves. -/
theorem read_effect (running : Running) (isError : Bool) (text : Bytes) :
    (running.read isError text).1.worker =
        { running.worker with
          tile := running.worker.tile.advance (running.kept isError ++ text) } ∧
      (running.read isError text).2 =
        { kind := .output
          tile := running.worker.tile.advance (running.kept isError ++ text)
          text, isError
          state := .running } := by
  cases isError <;> exact ⟨rfl, rfl⟩

/-- After all reads the worker holds the tile of the last output, and nothing else has changed. -/
theorem readAll_worker (reads : List (Bool × Bytes)) (running : Running) :
    (running.readAll reads).1.worker =
      { running.worker with
        tile := lastTile running.worker.tile (running.readAll reads).2 } := by
  induction reads generalizing running with
  | nil => rfl
  | cons read more ih =>
    obtain ⟨isError, text⟩ := read
    obtain ⟨worker, event⟩ := read_effect running isError text
    simp only [Running.readAll, ih, lastTile_cons, worker, event]

/-- What is read is what the outputs carry, in the same order. -/
theorem readAll_texts (reads : List (Bool × Bytes)) (running : Running) :
    (running.readAll reads).2.map (fun event => (event.isError, event.text)) = reads := by
  induction reads generalizing running with
  | nil => rfl
  | cons read more ih =>
    obtain ⟨isError, text⟩ := read
    simp only [Running.readAll, List.map_cons, ih, (read_effect running isError text).2]

/-- No read moves the tile. -/
theorem readAll_blank (reads : List (Bool × Bytes)) (running : Running) :
    ∀ event ∈ (running.readAll reads).2, event.tile.blank = running.worker.tile.blank := by
  induction reads generalizing running with
  | nil => simp [Running.readAll]
  | cons read more ih =>
    obtain ⟨isError, text⟩ := read
    obtain ⟨worker, event⟩ := read_effect running isError text
    intro other member
    rw [Running.readAll, List.mem_cons] at member
    rcases member with first | later
    · rw [first, event]
      rfl
    · rw [ih _ other later, worker]
      rfl

/-- The output for a read: it carries the read, and its tile is the last one, brought forward by what
the stream has left unfinished together with the read. -/
structure Reports (tile : Tile) (reads : List (Bool × Bytes)) (outputs : List Event) : Prop where
  count : outputs.length = reads.length
  each : ∀ (place : Nat) (isError : Bool) (text : Bytes), reads[place]? = some (isError, text) →
    outputs[place]? = some
      { kind := .output
        tile := (lastTile tile (outputs.take place)).advance
          (unfinishedLine (heard isError (reads.take place)) ++ text)
        text, isError
        state := .running }

theorem Reports.kind {tile : Tile} {reads : List (Bool × Bytes)} {outputs : List Event}
    (reports : Reports tile reads outputs) : ∀ output ∈ outputs, output.kind = .output := by
  intro output member
  obtain ⟨place, bound, found⟩ := List.getElem_of_mem member
  rw [reports.count] at bound
  have event := reports.each place _ _ (List.getElem?_eq_getElem bound)
  rw [List.getElem?_eq_some_iff] at event
  obtain ⟨_, event⟩ := event
  rw [← found, event]

/-- What the outputs carry of a stream is what was read of it. -/
theorem texts_of_stream {reads : List (Bool × Bytes)} {outputs : List Event}
    (carry : outputs.map (fun event => (event.isError, event.text)) = reads) (stream : Bool) :
    (outputs.filter (·.isError == stream)).flatMap (·.text) = heard stream reads := by
  rw [← carry, heard, List.filter_map, List.flatMap_map]
  rfl

theorem readAll_reports (reads : List (Bool × Bytes)) {running : Running} {seen : Bool → Bytes}
    (kept : ∀ stream, running.kept stream = unfinishedLine (seen stream)) (place : Nat)
    (isError : Bool) (text : Bytes) (found : reads[place]? = some (isError, text)) :
    (running.readAll reads).2[place]? = some
      { kind := .output
        tile := (lastTile running.worker.tile ((running.readAll reads).2.take place)).advance
          (unfinishedLine (seen isError ++ heard isError (reads.take place)) ++ text)
        text, isError
        state := .running } := by
  -- What is kept of each stream is the unfinished line of what it has written so far.
  induction reads generalizing running seen place with
  | nil => simp at found
  | cons read more ih =>
    obtain ⟨stream, first⟩ := read
    obtain ⟨worker, event⟩ := read_effect running stream first
    cases place with
    | zero =>
      simp only [List.getElem?_cons_zero, Option.some.injEq, Prod.mk.injEq] at found
      obtain ⟨rfl, rfl⟩ := found
      simp [Running.readAll, event, kept, lastTile, heard]
    | succ place =>
      have later := @ih _ (fun other => seen other ++ if stream = other then first else [])
        (read_keeps_unfinished kept stream first) place (by simpa using found)
      simp only [Running.readAll, List.getElem?_cons_succ, later, List.take_succ_cons, lastTile_cons,
        heard_cons, worker, event, List.append_assoc]

theorem reports_from_launch (tile : Tile) (reads : List (Bool × Bytes)) :
    Reports tile reads (Running.readAll { worker := { tile, state := .running } } reads).2 where
  count := by
    have texts := congrArg List.length (readAll_texts reads { worker := { tile, state := .running } })
    rwa [List.length_map] at texts
  each place isError text found := by
    -- Nothing is kept of either stream when the process is launched.
    have nothing : ∀ stream,
        Running.kept { worker := { tile, state := .running } } stream = unfinishedLine [] := by
      intro stream
      cases stream <;> rfl
    exact readAll_reports reads nothing place isError text found

/-- While the process runs, reads are taken in one by one and the state stays. -/
theorem undergoAll_reads (reads : List (Bool × Bytes)) {running : Running}
    (runs : running.worker.state = .running) :
    running.undergoAll (reads.map fun read => .read read.1 read.2) = running.readAll reads ∧
      running.passage (reads.map fun read => .read read.1 read.2) =
        List.replicate reads.length .running := by
  induction reads generalizing running with
  | nil => exact ⟨rfl, rfl⟩
  | cons read more ih =>
    obtain ⟨isError, text⟩ := read
    have still : (running.read isError text).1.worker.state = .running := by
      rw [(read_effect running isError text).1]
      exact runs
    obtain ⟨all, states⟩ := ih still
    simp only [List.map_cons, Running.undergoAll, Running.passage, Running.undergo, if_pos runs, all,
      states, still, Running.readAll]
    exact ⟨rfl, rfl⟩

/-- What a process writes is read in pieces, and without a process nothing is read. -/
theorem emit_eq_undergoAll (isError : Bool) (text : Bytes) (running : Running) :
    Run.emit isError text running = running.undergoAll ((reads text).map (.read isError)) := by
  by_cases runs : running.worker.state = .running
  · have all := (undergoAll_reads ((reads text).map ((isError, ·))) runs).1
    rw [List.map_map] at all
    rw [Run.emit, if_pos runs, ← all]
    rfl
  · rw [Run.emit, if_neg runs]
    induction reads text with
    | nil => rfl
    | cons piece more ih =>
      simp only [List.map_cons, Running.undergoAll, Running.undergo, if_neg runs, ← ih, List.nil_append]

theorem reads_flatten (piece : Bytes) : (reads piece).flatten = piece := by
  fun_induction reads piece with
  | case1 => rfl
  | case2 byte rest ih =>
    rw [List.flatten_cons, ih, List.cons_append, List.take_append_drop]

/-- What a process writes arrives whole, on the stream to which it was written. -/
theorem emit_carries (isError : Bool) (text : Bytes) {running : Running}
    (runs : running.worker.state = .running) (stream : Bool) :
    ((Run.emit isError text running).2.filter (·.isError == stream)).flatMap (·.text) =
      if isError = stream then text else [] := by
  have carry := readAll_texts ((reads text).map ((isError, ·))) running
  rw [Run.emit, if_pos runs, texts_of_stream carry]
  by_cases same : isError = stream
  · simp [heard, List.filter_map, List.flatMap_map, Function.comp_def, same, List.flatMap_id',
      reads_flatten]
  · simp [heard, List.filter_map, Function.comp_def, same]

/-! ## From start to end -/

/-- A worker that undergoes its fate lives its life, and is seen starting, then perhaps running, and
then in its last state. -/
theorem undergoAll_incidents (tile : Tile) (fate : Fate) :
    (Running.undergoAll { worker := { tile } } fate.incidents).1.worker =
        (({ tile } : Worker).live fate).1 ∧
      (Running.undergoAll { worker := { tile } } fate.incidents).2 =
        (({ tile } : Worker).live fate).2 ∧
      ∃ moments, (0 < moments ↔ fate.isLaunched = true) ∧
        Running.passage { worker := { tile } } fate.incidents =
          [.starting] ++ List.replicate moments .running ++
            [(({ tile } : Worker).live fate).1.state] := by
  cases fate with
  | notLaunched failure => exact ⟨rfl, rfl, 0, by simp [Fate.isLaunched], rfl⟩
  | launched reads ending =>
    let running : Running := { worker := { tile, state := .running } }
    obtain ⟨all, states⟩ := @undergoAll_reads reads running rfl
    have still : (running.readAll reads).1.worker.state = .running := by
      rw [readAll_worker]
    have begun : Running.undergoAll { worker := { tile } } [.start, .launch] = (running, []) := rfl
    have seen : Running.passage { worker := { tile } } [.start, .launch] = [.starting, .running] := rfl
    have lived : ({ tile } : Worker).live (.launched reads ending) =
        (((running.readAll reads).1.finish ending).1,
          (running.readAll reads).2 ++ [((running.readAll reads).1.finish ending).2]) := rfl
    have closed : (running.readAll reads).1.undergo (.stop ending) =
        ({ (running.readAll reads).1 with worker := ((running.readAll reads).1.finish ending).1 },
          [((running.readAll reads).1.finish ending).2]) := if_pos still
    rw [Fate.incidents, Running.undergoAll_append, Running.undergoAll_append, Running.passage_append,
      Running.passage_append, Running.undergoAll_append, begun, seen, all, states, lived]
    refine ⟨?_, ?_, reads.length + 1, by simp [Fate.isLaunched], ?_⟩
    · rw [Running.undergoAll, closed]
      rfl
    · rw [Running.undergoAll, closed]
      rfl
    · rw [Running.passage, closed, List.replicate_succ]
      rfl

/-- The event that ends a tile of which the given state was last reported. -/
structure Ends (fate : Fate) (held : Tile) (last : Event) : Prop where
  exited : ∀ code, fate.exitCode? = some code ↔
    last.kind = .tileFinished ∧ last.state = .finished ∧ last.exitCode = code ∧
      last.tile = { held with render := { held.render with line := held.endRow } }
  failed : fate.exitCode? = none ↔
    last.kind = .tileFailed ∧ last.state = (if fate.isLaunched then .crashed else .failedToStart) ∧
      last.exitCode = -1 ∧ last.failure.isSome ∧ last.tile = held
  failure : last.failure = fate.failure?

theorem finish_ends (reads : List (Bool × Bytes)) (running : Running) (ending : Ending) :
    Ends (.launched reads ending) running.worker.tile (running.finish ending).2 := by
  cases ending with
  | exited code =>
    refine ⟨fun other => ?_, ?_, rfl⟩
    · simp [Fate.exitCode?, Running.finish, Worker.finish]
    · simp [Fate.exitCode?, Running.finish, Worker.finish]
  | broken failure =>
    refine ⟨fun other => ?_, ?_, rfl⟩
    · simp [Fate.exitCode?, Running.finish, Worker.fail]
    · simp [Fate.exitCode?, Fate.isLaunched, Running.finish, Worker.fail]

/-- The worker keeps what the event says that ends its tile. -/
theorem finish_kept {running : Running} (unset : running.worker.exitCode = -1) (ending : Ending) :
    (running.finish ending).1 =
      { tile := (running.finish ending).2.tile
        state := (running.finish ending).2.state
        exitCode := (running.finish ending).2.exitCode } := by
  cases ending with
  | exited code => rfl
  | broken failure => simp [Running.finish, Worker.fail, unset]

theorem reject_ends (tile : Tile) (failure : Failure) :
    Ends (.notLaunched failure) tile (({ tile } : Worker).start.fail .failedToStart failure).2 := by
  refine ⟨fun code => ?_, ?_, rfl⟩
  · simp [Fate.exitCode?, Worker.fail]
  · simp [Fate.exitCode?, Fate.isLaunched, Worker.fail, Worker.start]

/-- The events of a life are the outputs of the reads and the event that ends the tile, and this last
event says what becomes of the worker. -/
theorem live_eq (tile : Tile) (fate : Fate) :
    ∃ outputs last, (({ tile } : Worker).live fate).2 = outputs ++ [last] ∧
      outputs = (Running.readAll { worker := { tile, state := .running } } fate.reads).2 ∧
      Ends fate (lastTile tile outputs) last ∧
      (({ tile } : Worker).live fate).1 =
        { tile := last.tile, state := last.state, exitCode := last.exitCode } := by
  cases fate with
  | notLaunched failure => exact ⟨[], _, rfl, rfl, reject_ends tile failure, rfl⟩
  | launched reads ending =>
    let running : Running := { worker := { tile, state := .running } }
    have worker := readAll_worker reads running
    refine ⟨_, _, rfl, rfl, ?_, ?_⟩
    · have ends := finish_ends reads (running.readAll reads).1 ending
      rwa [worker] at ends
    · have unset : (running.readAll reads).1.worker.exitCode = -1 := by rw [worker]
      exact finish_kept unset ending

theorem Ends.terminal {fate : Fate} {held : Tile} {last : Event} (ends : Ends fate held last) :
    last.state.isTerminal = true := by
  cases code : fate.exitCode? with
  | some value => rw [((ends.exited value).mp code).2.1]; rfl
  | none =>
    rw [(ends.failed.mp code).2.1]
    cases fate.isLaunched <;> rfl

theorem Ends.blank {fate : Fate} {held : Tile} {last : Event} (ends : Ends fate held last) :
    last.tile.blank = held.blank := by
  cases code : fate.exitCode? with
  | some value =>
    rw [((ends.exited value).mp code).2.2.2]
    rfl
  | none => rw [(ends.failed.mp code).2.2.2.2]

/-- A worker lives the same way whatever its tile is and whatever happens to its process. It passes
from idle over starting and, if the process is launched, running to one last state, and nothing that
comes later moves it from there or makes it send anything. It sends one output for each read, which
together carry each stream byte for byte, and then the one event that ends its tile: the tile is
finished exactly if the process exited normally, and only then all its rows count as done. The worker
keeps what this event says, and all events are about the place on the picture that it was given. -/
theorem worker_lifecycle (tile : Tile) (fate : Fate) (later : List Incident) :
    let idle : Running := { worker := { tile } }
    let worker := (idle.undergoAll (fate.incidents ++ later)).1.worker
    let events := (idle.undergoAll (fate.incidents ++ later)).2
    (worker, events) = ({ tile } : Worker).live fate ∧
      worker.state.isTerminal = true ∧
      (∃ moments, (0 < moments ↔ fate.isLaunched = true) ∧
        idle.passage (fate.incidents ++ later) =
          [.starting] ++ List.replicate moments .running ++
            List.replicate (later.length + 1) worker.state) ∧
      ∃ outputs last, events = outputs ++ [last] ∧
        (∀ output ∈ outputs, output.kind = .output) ∧
        (fate.isLaunched = false → outputs = []) ∧
        (∀ stream, (outputs.filter (·.isError == stream)).flatMap (·.text) =
          heard stream fate.reads) ∧
        Reports tile fate.reads outputs ∧
        Ends fate (lastTile tile outputs) last ∧
        worker = { tile := last.tile, state := last.state, exitCode := last.exitCode } ∧
        ∀ event ∈ events, event.tile.blank = tile.blank := by
  intro idle worker events
  obtain ⟨outputs, last, sent, read, ends, kept⟩ := live_eq tile fate
  obtain ⟨became, told, moments, seen, states⟩ := undergoAll_incidents tile fate
  have ended : (idle.undergoAll fate.incidents).1.worker.state.isTerminal = true := by
    rw [became, kept]
    exact ends.terminal
  obtain ⟨silent, stays⟩ := Running.undergoAll_terminal ended later
  have whole : (worker, events) = ({ tile } : Worker).live fate := by
    simp only [worker, events, Running.undergoAll_append, silent, List.append_nil]
    rw [became, told]
  obtain ⟨afterwards, history⟩ := Prod.ext_iff.mp whole
  simp only at afterwards history
  have reports : Reports tile fate.reads outputs := by
    rw [read]
    exact reports_from_launch tile fate.reads
  have place : ∀ output ∈ outputs, output.tile.blank = tile.blank := by
    rw [read]
    exact readAll_blank fate.reads _
  refine ⟨whole, ?_, ⟨moments, seen, ?_⟩, outputs, last, history.trans sent, reports.kind, ?_,
    texts_of_stream ?_, reports, ends, afterwards.trans kept, ?_⟩
  · rw [afterwards, kept]
    exact ends.terminal
  · rw [Running.passage_append, states, stays, became, afterwards]
    simp [List.replicate_succ]
  · intro unlaunched
    cases fate with
    | notLaunched failure => exact read
    | launched reads ending => cases unlaunched
  · rw [read]
    exact readAll_texts fate.reads _
  · intro event member
    rw [history, sent, List.mem_append, List.mem_singleton] at member
    rcases member with early | rfl
    · exact place event early
    · rw [ends.blank, lastTile_blank place]

end Mosaic
