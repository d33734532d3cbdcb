import Mosaic.Picture.Thumbnail
import Mosaic.Record
import Mosaic.Report.EventLog
import Mosaic.Report.ProgressView

/-! Builds render jobs one after the other and leave a record beside each picture. A tile that fails
only spoils its part of the picture; a job that cannot be configured ends the build.

What happens while the renderers of a job are at work is not known beforehand. It enters as the job's
occasion, so that a build is a function of the files and of its occasions. -/
namespace Mosaic

/-- What can happen while the renderers of a job are at work, in any order: one of them writes, leaves
its picture file or ends; the whole build is cancelled; a key is pressed at the terminal, or the terminal
fails; or the file system begins to refuse other things than before. -/
inductive Happening where
  | output (tile : Nat) (isError : Bool) (text : Bytes)
  | picture (tile : Nat) (content : Content)
  | ending (tile : Nat) (ending : Ending)
  | cancellation
  | key (name : String)
  | terminalFailure (error : Error)
  | refusals (refuses : Operation → String → Option Refusal)

/-- What a job meets when it is built: a fresh identifier, a fresh part for names of temporary files,
the time, and what happens to its renderers. -/
structure Occasion where
  id : String
  token : String
  startedAt : String := ""
  milliseconds : Int64 := 0
  happenings : List Happening := []
  deriving Inhabited

/-- What is wanted of a build: the jobs themselves or their previews, the greatest side of thumbnails
of previews with zero for none, and a progress view instead of a log. Executables are looked for on the
search path. -/
structure BuildOptions where
  searchPath : String := ""
  isSnapshot : Bool := false
  thumbnailSize : Int64 := 0
  isInteractive : Bool := false
  deriving DecidableEq, Repr, Inhabited

/-- A build under way: the session, the files, and the lines of its log. -/
structure Build where
  session : Session
  store : FileStore
  log : List String := []
  deriving Inhabited

/-- Where the events of a job are shown: in the log, in a view, or, once its terminal has failed,
nowhere. -/
inductive Display where
  | log
  | view (view : Report.ProgressView)
  | lost (error : Error)
  deriving DecidableEq, Repr, Inhabited

/-- A job that is being rendered: the build, the run, where its events are shown, and whether the build
was cancelled meanwhile. -/
structure Rendering where
  build : Build
  run : Run
  display : Display := .log
  isCancelled : Bool := false
  deriving Inhabited

namespace Rendering

/-- Begins with the heading of the log, or with a view. -/
def begin (build : Build) (options : BuildOptions) (run : Run) : Rendering :=
  let board := build.session.board
  if options.isInteractive then { build, run, display := .view (.ofBoard board) }
  else { build := { build with log := build.log ++ [Report.logHeading board.job] }, run }

/-- Shows events that were passed on, each with the board of its moment. -/
def present (rendering : Rendering) (passed : List (Board × Event)) : Rendering :=
  match rendering.display with
  | .log =>
    let lines := passed.filterMap fun (board, event) => Report.logLine? board event
    { rendering with build := { rendering.build with log := rendering.build.log ++ lines } }
  | .view view =>
    { rendering with display := .view (view.attend (passed.map fun (_, event) => .event event)) }
  | .lost _ => rendering

/-- Lets the session take in what has happened in the run. -/
def pass (rendering : Rendering) (token : String) (outcome : Run × List Event) : Rendering :=
  let build := rendering.build
  let (session, run, store, passed) :=
    build.session.receiveAll outcome.1 build.store token outcome.2
  { rendering with build := { build with session := session.observe run, store }, run }.present passed

/-- Kills the renderers that are still running. -/
def halt (rendering : Rendering) (token : String) : Rendering :=
  rendering.pass token rendering.run.kill

/-- The picture file that a running renderer leaves for its tile. -/
def leave (rendering : Rendering) (index : Nat) (content : Content) : Rendering :=
  match rendering.run.crew[index]? with
  | none => rendering
  | some running =>
    if running.worker.state = .running then
      let store := (rendering.build.store.write running.worker.tile.outputFile content).1
      { rendering with build := { rendering.build with store } }
    else rendering

/-- One happening. Keys are for the view, and so is the failure of the terminal: it ends the view, and the
renderers are killed. -/
def meet (rendering : Rendering) (token : String) : Happening → Rendering
  | .output tile isError text =>
    rendering.pass token (rendering.run.act tile (Run.emit isError text))
  | .picture tile content => rendering.leave tile content
  | .ending tile ending => rendering.pass token (rendering.run.act tile (Run.close ending))
  | .cancellation => { rendering with isCancelled := true }.halt token
  | .key name =>
    match rendering.display with
    | .view view =>
      let reaction := view.react (.key name)
      let rendering := { rendering with display := .view reaction.view }
      if reaction.cancels then rendering.halt token else rendering
    | _ => rendering
  | .terminalFailure error =>
    match rendering.display with
    | .view _ => { rendering with display := .lost error }.halt token
    | _ => rendering
  | .refusals refuses =>
    { rendering with build := { rendering.build with store := { rendering.build.store with refuses } } }

/-- Lets the view know that there are no more events, so that it quits. -/
def close (rendering : Rendering) : Rendering :=
  match rendering.display with
  | .view view => { rendering with display := .view (view.attend [.closed]) }
  | _ => rendering

/-- All happenings. Renderers that are still running after the last of them are killed. -/
def meetAll (rendering : Rendering) (token : String) (happenings : List Happening) : Rendering :=
  ((happenings.foldl (·.meet token) rendering).halt token).close

end Rendering

namespace Build

/-- The record of the session's job, if the job has a progress. -/
def record? (build : Build) (occasion : Occasion) : Option Record :=
  build.session.board.progress?.map fun progress =>
    { jobId := build.session.id
      job := build.session.board.job
      startedAt := occasion.startedAt
      milliseconds := occasion.milliseconds
      progress
      tiles := build.session.results }

/-- Writes the thumbnail of a picture, if the picture can be read. -/
def writeThumbnail (store : FileStore) (token output : String) (size : Int64) : FileStore :=
  match Picture.load store output with
  | .error _ => store
  | .ok picture => ((picture.thumbnail size size).save store token (Job.thumbnailPath output)).1

/-- Writes the record of a job that has been rendered, and its thumbnail if one is wanted. -/
def conclude (build : Build) (options : BuildOptions) (occasion : Occasion) :
    Build × Except Error Unit :=
  let output := build.session.board.job.output
  match build.record? occasion with
  | none => (build, .error .divideByZero)
  | some record =>
    match record.write build.store output with
    | (store, .error error) => ({ build with store }, .error (.file error))
    | (store, .ok ()) =>
      let store :=
        if options.isSnapshot && 0 < options.thumbnailSize then
          writeThumbnail store occasion.token output options.thumbnailSize
        else store
      ({ build with store }, .ok ())

/-- Renders the started job, with a log or with a view, and then writes its record and its thumbnail.
Neither is written if the terminal of the view has failed or the program has stopped. -/
def render (build : Build) (options : BuildOptions) (occasion : Occasion) (run : Run) :
    Build × Except Error Bool :=
  let failure := build.session.options.launchFailure? build.store options.searchPath
  let launched := (Rendering.begin build options run).pass occasion.token (run.launch failure)
  let rendered := launched.meetAll occasion.token occasion.happenings
  if rendered.run.isBroken then (rendered.build, .error .divideByZero)
  else
    match rendered.display with
    | .lost error => (rendered.build, .error error)
    | _ =>
      let (build, result) := rendered.build.conclude options occasion
      (build, result.map fun _ => rendered.isCancelled)

/-- Builds one job: makes the directory of its picture, configures it, renders it and records it. Says
whether the build was cancelled. -/
def runJob (build : Build) (options : BuildOptions) (occasion : Occasion) (job : Job) :
    Build × Except Error Bool :=
  let job := if options.isSnapshot then job.snapshot else job
  match build.store.ensureDirectory (Path.directory job.output) with
  | (store, .error error) => ({ build with store }, .error (.file error))
  | (store, .ok ()) =>
    match build.session.configure store occasion.id job with
    | (session, store, .error error) => ({ build with session, store }, .error error)
    | (session, store, .ok ()) =>
      match session.start options.isSnapshot with
      | .error error => ({ build with session, store }, .error error)
      | .ok (session, run) => { build with session, store }.render options occasion run

/-- Builds jobs in order, up to the first that fails or is cancelled. The occasions are numbered. -/
def runFrom (options : BuildOptions) (occasion : Nat → Occasion) :
    Nat → Build → List Job → Build × Except Error Unit
  | _, build, [] => (build, .ok ())
  | n, build, job :: more =>
    match build.runJob options (occasion n) job with
    | (build, .error error) => (build, .error (.inJob job.name error))
    | (build, .ok true) => (build, .error .cancelled)
    | (build, .ok false) => runFrom options occasion (n + 1) build more

/-- Builds jobs in order. -/
def run (build : Build) (options : BuildOptions) (occasion : Nat → Occasion) (jobs : List Job) :
    Build × Except Error Unit :=
  runFrom options occasion 0 build jobs

end Build

end Mosaic
