import Mosaic.Error
import Mosaic.Tile

/-! What workers report and the session passes on. -/
namespace Mosaic

/-- The states of a worker. The last constructor stands for values that are no state. -/
inductive WorkerState where
  | idle
  | starting
  | running
  | finished
  | crashed
  | failedToStart
  | unknown
  deriving DecidableEq, Repr, Inhabited

namespace WorkerState

/-- The state with a number. -/
def ofCode (code : Int64) : WorkerState :=
  if code = 0 then idle
  else if code = 1 then starting
  else if code = 2 then running
  else if code = 3 then finished
  else if code = 4 then crashed
  else if code = 5 then failedToStart
  else unknown

/-- The name of a state. -/
def name : WorkerState → String
  | idle => "idle"
  | starting => "starting"
  | running => "running"
  | finished => "finished"
  | crashed => "crashed"
  | failedToStart => "failed-to-start"
  | unknown => "unknown"

/-- The states that a worker never leaves. -/
def isTerminal : WorkerState → Bool
  | finished => true
  | crashed => true
  | failedToStart => true
  | _ => false

end WorkerState

/-- The kinds of events. The last constructor stands for values that are no kind. -/
inductive EventKind where
  | output
  | tileFinished
  | tileFailed
  | jobFinished
  | unknown
  deriving DecidableEq, Repr, Inhabited

namespace EventKind

/-- The kind with a number. -/
def ofCode (code : Int64) : EventKind :=
  if code = 0 then output
  else if code = 1 then tileFinished
  else if code = 2 then tileFailed
  else if code = 3 then jobFinished
  else unknown

/-- The name of a kind. -/
def name : EventKind → String
  | output => "output"
  | tileFinished => "tile-finished"
  | tileFailed => "tile-failed"
  | jobFinished => "job-finished"
  | unknown => "unknown"

/-- The kinds that end a tile. -/
def isTerminal : EventKind → Bool
  | tileFinished => true
  | tileFailed => true
  | _ => false

end EventKind

/-- An event. The tile is a copy from the moment of the event. The snapshot mark and the progress of the
whole job are filled in by the session that passes the event on. -/
structure Event where
  kind : EventKind
  tile : Tile := {}
  text : Bytes := []
  isError : Bool := false
  state : WorkerState := .idle
  exitCode : Int64 := 0
  failure : Option Failure := none
  isSnapshot : Bool := false
  progress : Int64 := 0
  deriving DecidableEq, Repr, Inhabited

end Mosaic
