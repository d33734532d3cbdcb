import Mosaic.Session
import Mosaic.Web.Server

/-! What the status server shows of a session. -/
namespace Mosaic

/-- How the session's job stands. -/
def Session.status (session : Session) : Web.Status :=
  { jobId := session.id
    job := session.board.job
    progress := session.board.progress?
    elapsed := session.board.elapsedText
    parseTime := session.board.parseText
    statusLine := session.board.statusLine?
    tiles := if session.board.tiles.isEmpty then none else some session.board.tiles }

end Mosaic
