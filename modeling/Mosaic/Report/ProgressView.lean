import Mosaic.Board
import Mosaic.Event
import Mosaic.Report.Styled
import Mosaic.Text.Blank
import Mosaic.Worker

/-! The interactive view of a running job: one bar for each tile and the job's status line. It reacts to
messages, and each reaction may ask for the next event or end the view. -/
namespace Mosaic.Report

/-- The lines of a text; either line break ends one. -/
def brokenLines : Bytes → List Bytes
  | [] => [[]]
  | byte :: rest =>
    if isLineBreak byte then [] :: brokenLines rest
    else
      match brokenLines rest with
      | [] => [[byte]]
      | line :: more => (byte :: line) :: more

/-- The last line that is not blank, without the blanks at its ends. -/
def lastLine (text : Bytes) : Bytes :=
  (((brokenLines text).map Text.trim).reverse.find? (!·.isEmpty)).getD []

/-- What the view shows. -/
structure ProgressView where
  tiles : List Tile := []
  states : List WorkerState := []
  lastLine : Bytes := []
  isDone : Bool := false
  isAborted : Bool := false
  deriving DecidableEq, Repr, Inhabited

/-- What can reach the view. -/
inductive Message where
  | key (name : String)
  | event (event : Event)
  | closed
  | other
  deriving DecidableEq, Repr, Inhabited

/-- What the view asks for after a message: nothing, the next event, or its end. -/
inductive Command where
  | none
  | wait
  | quit
  deriving DecidableEq, Repr, Inhabited

namespace Command

/-- The name of a command. -/
def name : Command → String
  | none => "none"
  | wait => "wait"
  | quit => "quit"

end Command

/-- The answer to a message: the view, what it asks for, and whether it cancels the job. -/
structure Reaction where
  view : ProgressView
  command : Command := .none
  cancels : Bool := false
  deriving DecidableEq, Repr, Inhabited

namespace ProgressView

/-- The view of a job that has just been started. -/
def ofBoard (board : Board) : ProgressView :=
  { tiles := board.tiles, states := board.tiles.map fun _ => .running }

/-- What a new view asks for. -/
def firstCommand : Command := .wait

/-- The keys that cancel the job. -/
def isCancelKey (name : String) : Bool := name == "q" || name == "ctrl+c" || name == "esc"

/-- Puts a state in the place of a tile's index. -/
def placeState (states : List WorkerState) (index : Int64) (state : WorkerState) : List WorkerState :=
  if 0 ≤ index.toInt && index.toInt < states.length then states.set index.toInt.toNat state else states

/-- Takes in an event. The event that ends the job carries no tile and changes nothing. -/
def take (view : ProgressView) (event : Event) : ProgressView :=
  if event.kind = .jobFinished then view
  else
    let line := Report.lastLine event.text
    { view with
      tiles := place view.tiles event.tile
      states :=
        if event.kind.isTerminal then placeState view.states event.tile.index event.state
        else view.states
      lastLine := if event.kind = .output && !line.isEmpty then line else view.lastLine }

/-- Reacts to a message. After a cancelling key events are still taken in until they end. -/
def react (view : ProgressView) : Message → Reaction
  | .key name =>
    if isCancelKey name then { view := { view with isAborted := true }, cancels := true } else { view }
  | .event event => { view := view.take event, command := .wait }
  | .closed => { view := { view with isDone := true }, command := .quit }
  | .other => { view }

/-- The view after messages. -/
def attend (view : ProgressView) (messages : List Message) : ProgressView :=
  messages.foldl (fun view message => (view.react message).view) view

/-- The width of a bar. -/
def barWidth : Nat := 30

/-- The filled part of a tile's bar, computed in floating point. -/
def filled (tile : Tile) : Nat :=
  let ratio : Float :=
    if 0 < tile.endRow then
      (min (max tile.render.line 0) tile.endRow).toFloat / tile.endRow.toFloat
    else 0
  (ratio * barWidth.toUInt64.toFloat).toUInt64.toNat

/-- The sign of a state. -/
def icon : WorkerState → String
  | .finished => "✓"
  | .crashed => "✗"
  | .failedToStart => "✗"
  | _ => "›"

/-- The line of a tile. -/
def tileLine (tile : Tile) (state : WorkerState) : String :=
  icon state ++ " tile " ++ Text.alignLeft 3 (Text.decimal tile.index) ++ " " ++
    "".pushn '█' (filled tile) ++ "".pushn '░' (barWidth - filled tile) ++ " " ++
    Text.alignRight 5 (Text.decimal tile.render.line) ++ "/" ++
    Text.alignLeft 5 (Text.decimal tile.endRow) ++ " " ++ tile.render.elapsed.text

/-- The text of the view; each line ends in a line feed. There is none where the job has no status. -/
def text? (view : ProgressView) (board : Board) : Option String := do
  let status ← board.statusLine?
  let job := board.job
  return styled ("rendering " ++ job.name) ++ " " ++ Text.decimal job.width ++ "x" ++
    Text.decimal job.height ++ "\n\n" ++
    String.join (List.zipWith (fun tile state => tileLine tile state ++ "\n") view.tiles view.states) ++
    "\n" ++ status ++ "\n" ++
    (if view.lastLine.isEmpty then ""
      else styled (String.ofList (Text.decodeLossy view.lastLine)) ++ "\n") ++
    (if view.isAborted && !view.isDone then "cancelling, waiting for renderers to exit\n" else "")

end ProgressView

end Mosaic.Report
