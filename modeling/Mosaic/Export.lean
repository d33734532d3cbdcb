import Mosaic.Job
import Mosaic.Text.Json
import Mosaic.Tile

/-! Jobs and tiles as JSON, for the status page and for build records. -/
namespace Mosaic

open Text (Json)

/-- A clock as JSON. -/
def Clock.json (clock : Clock) : Json :=
  .object [("hour", .number clock.hour), ("min", .number clock.min), ("sec", .number clock.sec)]

/-- A tile as JSON. -/
def Tile.json (tile : Tile) : Json :=
  .object [
    ("outputFile", .text tile.outputFile),
    ("index", .number tile.index),
    ("startColumn", .number tile.startColumn),
    ("endColumn", .number tile.endColumn),
    ("startRow", .number tile.startRow),
    ("endRow", .number tile.endRow),
    ("lines", .number tile.render.line),
    ("totalLines", .number tile.render.total),
    ("elapsed", tile.render.elapsed.json),
    ("parseElapsed", tile.parse.elapsed.json),
    ("parseKilobytes", .number tile.parse.kilobytes)]

/-- A job as JSON. -/
def Job.json (job : Job) : Json :=
  .object [
    ("name", .text job.name),
    ("scene", .text job.scene),
    ("output", .text job.output),
    ("width", .number job.width),
    ("height", .number job.height),
    ("quality", .number job.quality),
    ("antialias", .bool job.antialias),
    ("workers", .number job.workers),
    ("format", .text job.format),
    ("snapshot", .bool job.isSnapshot)]

end Mosaic
