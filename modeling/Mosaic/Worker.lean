import Mosaic.Event
import Mosaic.Progress

/-! A worker renders one tile with one renderer process and is used once. It reads the two output
streams of its process piece by piece. A marker may be cut by the end of a piece, so the unfinished
last line of each stream is kept and read again together with the next piece. -/
namespace Mosaic

/-- The greatest number of bytes in one read, and in a line that is kept between reads. -/
def readLimit : Nat := 4096

/-- A byte that ends a line: line feed or carriage return. -/
def isLineBreak (byte : UInt8) : Bool := byte == 10 || byte == 13

/-- What follows the last line break. -/
def afterLastBreak (text : Bytes) : Bytes :=
  (text.reverse.takeWhile (!isLineBreak ·)).reverse

/-- The unfinished last line: what follows the last line break, at most its last `readLimit` bytes. -/
def unfinishedLine (text : Bytes) : Bytes :=
  let line := afterLastBreak text
  line.drop (line.length - readLimit)

/-- Cuts a piece of output into reads of at most `readLimit` bytes. Empty pieces give no read. -/
def reads (piece : Bytes) : List Bytes :=
  match piece with
  | [] => []
  | byte :: rest =>
    (byte :: rest.take (readLimit - 1)) :: reads (rest.drop (readLimit - 1))
termination_by piece.length
decreasing_by simp only [List.length_drop, List.length_cons]; omega

/-- What is kept of a worker. The exit code is -1 until the process has exited normally. -/
structure Worker where
  tile : Tile := {}
  state : WorkerState := .idle
  exitCode : Int64 := -1
  deriving DecidableEq, Repr, Inhabited

namespace Worker

/-- Takes in one read of a stream of which the given line was kept: the worker, the line to keep now,
and the event. -/
def absorb (worker : Worker) (isError : Bool) (kept read : Bytes) : Worker × Bytes × Event :=
  let scanned := kept ++ read
  let tile := worker.tile.advance scanned
  ({ worker with tile }, unfinishedLine scanned,
    { kind := .output, tile, text := read, isError, state := .running })

/-- Takes in the reads of one stream to its end. -/
def drainFrom (isError : Bool) : Worker → Bytes → List Bytes → Worker × List Event
  | worker, _, [] => (worker, [])
  | worker, kept, read :: more =>
    let (worker, kept, event) := worker.absorb isError kept read
    let (worker, events) := drainFrom isError worker kept more
    (worker, event :: events)

/-- Takes in a whole stream. -/
def drain (worker : Worker) (isError : Bool) (stream : List Bytes) : Worker × List Event :=
  drainFrom isError worker [] stream

/-- Marks the worker as used. Only an idle worker can be started. -/
def start (worker : Worker) : Worker :=
  if worker.state = .idle then { worker with state := .starting } else worker

/-- The process is running. -/
def launched (worker : Worker) : Worker := { worker with state := .running }

/-- The process has exited normally, with whatever code: every line of the tile counts as done. -/
def finish (worker : Worker) (code : Int64) : Worker × Event :=
  let tile := { worker.tile with render := { worker.tile.render with line := worker.tile.endRow } }
  ({ worker with tile, state := .finished, exitCode := code },
    { kind := .tileFinished, tile, state := .finished, exitCode := code })

/-- The process could not be started, or ended abnormally. -/
def fail (worker : Worker) (state : WorkerState) (failure : Failure) : Worker × Event :=
  ({ worker with state },
    { kind := .tileFailed, tile := worker.tile, state, exitCode := -1, failure := some failure })

end Worker

/-- How a started process ends. -/
inductive Ending where
  | exited (code : Int64)
  | broken (failure : Failure)
  deriving DecidableEq, Repr, Inhabited

/-- Everything that can happen to a worker: it cannot be launched, or it is, and then its two streams
are read in some order until the process ends. A read is marked with whether it is of the error
stream. -/
inductive Fate where
  | notLaunched (failure : Failure)
  | launched (reads : List (Bool × Bytes)) (ending : Ending)
  deriving DecidableEq, Repr, Inhabited

/-- A worker with a running process, and the lines kept of its two streams. -/
structure Running where
  worker : Worker
  keptOutput : Bytes := []
  keptError : Bytes := []
  deriving DecidableEq, Repr, Inhabited

namespace Running

/-- Takes in one read of one of the streams. -/
def read (running : Running) (isError : Bool) (text : Bytes) : Running × Event :=
  let kept := if isError then running.keptError else running.keptOutput
  let (worker, kept, event) := running.worker.absorb isError kept text
  if isError then ({ running with worker, keptError := kept }, event)
  else ({ running with worker, keptOutput := kept }, event)

/-- Takes in reads in order. -/
def readAll : Running → List (Bool × Bytes) → Running × List Event
  | running, [] => (running, [])
  | running, (isError, text) :: more =>
    let (running, event) := running.read isError text
    let (running, events) := readAll running more
    (running, event :: events)

/-- Ends the process. -/
def finish (running : Running) : Ending → Worker × Event
  | .exited code => running.worker.finish code
  | .broken failure => running.worker.fail .crashed failure

end Running

/-- The whole life of an idle worker: what it is afterwards and all its events. -/
def Worker.live (worker : Worker) : Fate → Worker × List Event
  | .notLaunched failure =>
    let (worker, event) := worker.start.fail .failedToStart failure
    (worker, [event])
  | .launched reads ending =>
    let (running, events) := Running.readAll { worker := worker.start.launched } reads
    let (worker, last) := running.finish ending
    (worker, events ++ [last])

end Mosaic
