import Mosaic.Build
import Mosaic.CommandLine.Flag
import Mosaic.Config.Settings
import Mosaic.Report.TileTable
import Mosaic.TileMap

/-! The command line: `render` and `snapshot` build jobs, `tiles` shows how a picture is cut. -/
namespace Mosaic.CommandLine

/-- What a command finds around it: the environment, the number of processors, and what its jobs will
meet. -/
structure Setting where
  environment : String → String
  processors : Int64
  occasion : Nat → Occasion

/-- What a command leaves: its exit code, the text of a fatal error, the lines it has written, and the
files. -/
structure Outcome where
  exitCode : Nat := 0
  fatal : Option String := none
  lines : List String := []
  store : FileStore
  deriving Inhabited

namespace Outcome

/-- A command that stops with a fatal error. -/
def failed (store : FileStore) (message : String) (lines : List String) : Outcome :=
  { exitCode := 1, fatal := some message, lines, store }

/-- A command that ends well or with an error, or at which the program stops. -/
def ofResult (store : FileStore) (lines : List String) : Except Error Unit → Outcome
  | .ok () => { lines, store }
  | .error error =>
    if error.root = .divideByZero then { exitCode := 2, lines, store }
    else failed store error.message lines

end Outcome

/-- The switch that every command has. -/
def helpFlag : Flag := ⟨["help", "h"], .switch⟩

/-- Flags before the command. -/
def globalFlags : List Flag := [⟨["verbose", "v"], .switch⟩, helpFlag]

/-- Flags of the commands that build jobs. -/
def jobFlags : List Flag :=
  [⟨["config"], .text⟩,
    ⟨["job"], .texts⟩,
    ⟨["scene"], .text⟩,
    ⟨["output"], .text⟩,
    ⟨["width"], .number⟩,
    ⟨["height"], .number⟩,
    ⟨["quality"], .number⟩,
    ⟨["antialias"], .switch⟩,
    ⟨["workers", "n"], .number⟩,
    ⟨["format"], .text⟩,
    ⟨["executable"], .text⟩,
    ⟨["workdir"], .text⟩,
    ⟨["tui"], .switch⟩,
    ⟨["listen"], .text⟩]

/-- The commands. -/
inductive Command where
  | render
  | snapshot
  | tiles
  deriving DecidableEq, Repr, Inhabited

namespace Command

/-- The name of a command. -/
def name : Command → String
  | render => "render"
  | snapshot => "snapshot"
  | tiles => "tiles"

/-- What a command does, in a few words. -/
def summary : Command → String
  | render => "render the configured jobs"
  | snapshot => "render a low resolution preview of the configured jobs"
  | tiles => "print the tile partition for an image size"

/-- All commands. -/
def all : List Command := [render, snapshot, tiles]

/-- The command with a name. -/
def ofName? (name : String) : Option Command := all.find? (·.name == name)

/-- The flags of a command. -/
def flags : Command → List Flag
  | render => jobFlags ++ [helpFlag]
  | snapshot => jobFlags ++ [⟨["thumbnail"], .number⟩, helpFlag]
  | tiles =>
    [⟨["width"], .number⟩, ⟨["height"], .number⟩, ⟨["workers", "n"], .number⟩, ⟨["preview"], .text⟩,
      helpFlag]

end Command

/-- The names of the command that explains the others. -/
def helpNames : List String := ["help", "h"]

/-- What can be explained. -/
def topics : List String := Command.all.map Command.name ++ helpNames

/-- A short explanation of the program. -/
def usage : List String :=
  "usage: tilerender [--verbose] COMMAND [FLAGS]" ::
    Command.all.map fun command => "   " ++ Text.alignLeft 10 command.name ++ command.summary

/-- Explains the program, or a topic if one is named. An unknown topic ends with the given code; it is
a fatal error if that is one. -/
def explain (store : FileStore) (known : List String) (topic : String) (unknownCode : Nat) : Outcome :=
  if topic.isEmpty || known.contains topic then { lines := usage, store }
  else
    { exitCode := unknownCode
      fatal := if unknownCode = 1 then some ("No help topic for '" ++ topic ++ "'") else none
      store }

/-- Flags that cannot be read end the program. -/
def refuse (store : FileStore) (fault : FlagFault) : Outcome := .failed store fault.message usage

/-- The command `help`, with the topics that are known where it stands. -/
def help (store : FileStore) (known arguments : List String) : Outcome :=
  match Flags.parse [helpFlag] arguments with
  | .error fault => refuse store fault
  | .ok (flags, others) =>
    let topic := others.headD ""
    if flags.isOn "help" then explain store known topic 1
    else if helpNames.contains topic then explain store helpNames (others.tail.headD "") 3
    else explain store known topic 3

/-- The configuration document that the flags name. -/
def document (flags : Flags) : String := flags.text "config" "tilerender.hcl"

/-- Reads a configuration document. -/
def readSettings (setting : Setting) (store : FileStore) (path : String) :
    Except Error Config.Settings :=
  match store.openFile path with
  | .ok (.file (.bytes source)) =>
    Config.Settings.load setting.environment setting.processors path source
  | _ => .error .document

/-- The settings that the flags ask for. A scene can be rendered without a document, but a document
that is named or there must be right. -/
def settings (setting : Setting) (store : FileStore) (flags : Flags) : Except Error Config.Settings :=
  match readSettings setting store (document flags) with
  | .ok settings => .ok settings
  | .error error =>
    match store.stat (document flags) with
    | .error .noEntry => if flags.isSet "scene" && !flags.isSet "config" then .ok {} else .error error
    | _ => .error error

/-- The job for a scene on the command line. -/
def sceneJob (setting : Setting) (settings : Config.Settings) (flags : Flags) : Job :=
  let width := flags.number "width" Job.standardWidth
  let workers := flags.number "workers" 0
  { name := "scene"
    scene := flags.text "scene" ""
    output := flags.text "output" "output.png"
    width
    height := flags.number "height" Job.standardHeight
    quality := flags.number "quality" 9
    antialias := flags.isOn "antialias"
    workers := if workers = 0 then min (settings.standardWorkers setting.processors) width else workers
    format := flags.text "format" Format.standard }

/-- The jobs of the given names, up to the first that there is not. -/
def namedJobs (setting : Setting) (settings : Config.Settings) (path : String) :
    List String → Except Error (List Job)
  | [] => .ok []
  | name :: more =>
    match settings.job? setting.processors name with
    | none => .error (.noSuchJob name path)
    | some job =>
      match namedJobs setting settings path more with
      | .error error => .error error
      | .ok jobs => .ok (job :: jobs)

/-- The jobs that the flags ask for: a scene, or those named of the configured jobs, or all of them. -/
def jobs (setting : Setting) (settings : Config.Settings) (flags : Flags) : Except Error (List Job) :=
  if flags.isSet "scene" then .ok [sceneJob setting settings flags]
  else do
    let path := document flags
    let names := flags.texts "job"
    let jobs ←
      if names.isEmpty then .ok (settings.jobs setting.processors)
      else namedJobs setting settings path names
    if jobs.isEmpty then throw (.noJobs path)
    if flags.isSet "workers" then
      return jobs.map fun job => { job with workers := flags.number "workers" 0 }
    else return jobs

/-- The directory for temporary files. -/
def temporary (setting : Setting) : String :=
  let named := setting.environment "TMPDIR"
  if named.isEmpty then Config.Settings.standardTemporary else named

/-- How renderers are run. -/
def rendererOptions (setting : Setting) (settings : Config.Settings) (flags : Flags) :
    Except Error RendererOptions := do
  let options ← settings.rendererOptions (temporary setting)
  return { options with
    executable := flags.text "executable" options.executable
    workingDirectory := flags.text "workdir" options.workingDirectory }

/-- What to build and how. -/
def plan (setting : Setting) (store : FileStore) (flags : Flags) :
    Except Error (List Job × RendererOptions) := do
  let settings ← settings setting store flags
  let jobs ← jobs setting settings flags
  return (jobs, ← rendererOptions setting settings flags)

/-- Builds jobs or their previews. -/
def build (setting : Setting) (store : FileStore) (isSnapshot : Bool) (flags : Flags) : Outcome :=
  match plan setting store flags with
  | .error error => .failed store error.message []
  | .ok (jobs, options) =>
    let wanted : BuildOptions := {
      isSnapshot
      searchPath := setting.environment "PATH"
      thumbnailSize := if isSnapshot then flags.number "thumbnail" 64 else 0
      isInteractive := flags.isOn "tui" }
    let (build, result) := Build.run { session := { options }, store } wanted setting.occasion jobs
    .ofResult build.store build.log result

/-- Prints the tiles of a picture, and writes a map of them if one is wanted. -/
def tiles (setting : Setting) (store : FileStore) (flags : Flags) : Outcome :=
  let width := flags.number "width" Job.standardWidth
  let height := flags.number "height" Job.standardHeight
  let workers := flags.number "workers" 4
  if width < 1 || height < 1 || workers < 1 then .ofResult store [] (.error .tileArguments)
  else
    let tiles := partition width height workers
    let lines := Report.tileTable tiles
    let path := flags.text "preview" ""
    if path.isEmpty then .ofResult store lines (.ok ())
    else
      match TileMap.picture tiles width height with
      | .error error => .ofResult store lines (.error error)
      | .ok picture =>
        let (store, result) := picture.save store (setting.occasion 0).token path
        .ofResult store lines result

/-- Runs a command. -/
def runCommand (setting : Setting) (store : FileStore) (command : Command) (arguments : List String) :
    Outcome :=
  match Flags.parse command.flags arguments with
  | .error fault => refuse store fault
  | .ok (flags, others) =>
    if flags.isOn "help" then explain store helpNames (others.headD "") 1
    else if helpNames.contains (others.headD "") then help store helpNames others.tail
    else
      match command with
      | .render => build setting store false flags
      | .snapshot => build setting store true flags
      | .tiles => tiles setting store flags

/-- Runs the program. -/
def run (setting : Setting) (store : FileStore) (arguments : List String) : Outcome :=
  match Flags.parse globalFlags arguments with
  | .error fault => refuse store fault
  | .ok (flags, others) =>
    let name := others.headD ""
    if flags.isOn "help" then explain store topics name 1
    else if helpNames.contains name then help store topics others.tail
    else
      match Command.ofName? name with
      | some command => runCommand setting store command others.tail
      | none => explain store topics name 3

end Mosaic.CommandLine
