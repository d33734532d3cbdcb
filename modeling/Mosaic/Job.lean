import Mosaic.Format
import Mosaic.Path

/-! A job is the order to render one scene into one picture. -/
namespace Mosaic

/-- The parameters of one render. -/
structure Job where
  name : String := ""
  scene : String := ""
  output : String := ""
  width : Int64 := 0
  height : Int64 := 0
  quality : Int64 := 0
  antialias : Bool := false
  workers : Int64 := 0
  format : String := ""
  isSnapshot : Bool := false
  deriving DecidableEq, Repr, Inhabited

namespace Job

/-- The width of a configured job that gives none. -/
def standardWidth : Int64 := 400

/-- The height of a configured job that gives none. -/
def standardHeight : Int64 := 300

/-- Fills in the standard format and brings the format code to upper case. -/
def withDefaults (job : Job) : Job :=
  { job with format := Text.toUpper (if job.format.isEmpty then Format.standard else job.format) }

/-- Accepts a job that can be rendered, and otherwise gives the first fault: scene, output, size,
workers, format code, extension of the output. -/
def validate (job : Job) : Except Error Unit :=
  if job.scene.isEmpty then .error .sceneRequired
  else if job.output.isEmpty then .error .outputRequired
  else if job.width < 1 || job.height < 1 then .error (.imageSize job.width job.height)
  else if job.workers < 1 then .error (.workerCount job.workers)
  else if (Format.extension? job.withDefaults.format).isNone then
    .error (.formatCode (.ofString job.withDefaults.format))
  else if !Encoding.canEncode (Path.extension job.output) then .error (.outputImage job.output)
  else .ok ()

/-- Where the preview of an output goes: beside it, always as PNG. -/
def snapshotOutput (output : String) : String :=
  Path.withoutExtension output ++ ".snapshot.png"

/-- The small preview of a job. Name, scene, workers and format stay. -/
def snapshot (job : Job) : Job :=
  { job with
    width := 75
    height := 50
    quality := 10
    antialias := true
    isSnapshot := true
    output := if job.output.isEmpty then job.output else snapshotOutput job.output }

/-- Where the record of a build goes. -/
def metaPath (output : String) : String := Path.withoutExtension output ++ ".build.json"

/-- Where the thumbnail of a picture goes. -/
def thumbnailPath (output : String) : String := Path.withoutExtension output ++ ".thumb.png"

end Job

end Mosaic
