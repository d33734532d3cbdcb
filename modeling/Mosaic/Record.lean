import Mosaic.Export
import Mosaic.Session

/-! The record of a build, written beside its picture. -/
namespace Mosaic

open Text (Json)

/-- What is recorded of a build. -/
structure Record where
  jobId : String := ""
  job : Job := {}
  startedAt : String := ""
  milliseconds : Int64 := 0
  progress : Int64 := 0
  tiles : List TileResult := []
  deriving DecidableEq, Repr, Inhabited

/-- A tile's result as JSON. -/
def TileResult.json (result : TileResult) : Json :=
  .object [
    ("index", .number result.index),
    ("startColumn", .number result.startColumn),
    ("endColumn", .number result.endColumn),
    ("state", .text result.state.name),
    ("exitCode", .number result.exitCode),
    ("lines", .number result.lines),
    ("elapsed", .text result.elapsed)]

/-- A record as JSON. -/
def Record.json (record : Record) : Json :=
  .object [
    ("jobId", .text record.jobId),
    ("job", record.job.json),
    ("startedAt", .text record.startedAt),
    ("durationMs", .number record.milliseconds),
    ("progress", .number record.progress),
    ("tiles", .list (record.tiles.map TileResult.json))]

/-- Writes the record of a job whose picture has the given path. -/
def Record.write (record : Record) (store : FileStore) (output : String) :
    FileStore × Except FileError Unit :=
  store.write (Job.metaPath output) (.bytes (.ofString record.json.indented))

end Mosaic
