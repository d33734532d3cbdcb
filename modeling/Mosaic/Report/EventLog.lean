import Mosaic.Board
import Mosaic.Event
import Mosaic.Report.Styled

/-! The log of a job: a heading, a line for each tile that ends, and a line at the end. Renderer output
is not logged. -/
namespace Mosaic.Report

/-- The heading of a job's log. -/
def logHeading (job : Job) : String :=
  "› " ++ styled ("rendering " ++ job.name) ++ " " ++
    styled (Text.decimal job.width ++ "x" ++ Text.decimal job.height ++ ", " ++
      Text.decimal job.workers ++ " tiles")

/-- The line for an event, if it has one. The board is that of the moment. The end of a job is told with
its status. -/
def logLine? (board : Board) (event : Event) : Option String :=
  match event.kind with
  | .tileFinished => some
      ("✓ tile " ++ Text.decimal event.tile.index ++ " finished [" ++
        Text.decimal event.tile.startColumn ++ "-" ++ Text.decimal event.tile.endColumn ++ "] " ++
        Text.alignRight 3 (Text.decimal event.progress) ++ "% " ++ board.elapsedText)
  | .tileFailed => some
      ("✗ tile " ++ Text.decimal event.tile.index ++ " " ++ event.state.name ++ ": " ++
        (event.failure.map Failure.message).getD "<nil>")
  | .jobFinished => board.statusLine?.map fun status => "› " ++ status ++ " " ++ styled board.job.output
  | _ => none

/-- The log of events, each with the board of its moment. -/
def log (job : Job) (events : List (Board × Event)) : List String :=
  logHeading job :: events.filterMap fun (board, event) => logLine? board event

end Mosaic.Report
