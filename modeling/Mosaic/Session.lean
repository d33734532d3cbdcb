import Mosaic.Artifact
import Mosaic.Board
import Mosaic.Compositor
import Mosaic.Renderer
import Mosaic.Worker

/-! A session renders one job after the other. A job is configured, which cuts it into tiles and writes
an artifact for each, and then started, which sets one renderer to work on each tile. From then on
the session takes in the events of the workers in the order in which they arrive, puts finished tiles
together, and passes the events on. The last event says that the job is finished. Events carry the share
of the job that is done; where there is no such share, the program stops at the first of them. -/
namespace Mosaic

/-- Writes the artifact of a tile and gives its path. -/
abbrev Writer := FileStore → Job → Tile → FileStore × Except Error String

/-- What a session holds: the job on its board and where it is worked on, the workers with the paths of
their artifacts, and the canvas. Without a job all of it is empty; only the canvas may be left over.
Artifacts are written by the writer, if one is given, and otherwise as INI files into the job's
directory. -/
structure Session where
  options : RendererOptions := {}
  writer : Option Writer := none
  id : String := ""
  directory : String := ""
  board : Board := {}
  crew : List Worker := []
  artifacts : List String := []
  isSnapshot : Bool := false
  isStarted : Bool := false
  compositor : Compositor := {}
  deriving Inhabited

/-- The job with its paths seen from the root. -/
def Job.located (job : Job) (workingDirectory : String) : Job :=
  { job with
    scene := Path.absolute workingDirectory job.scene
    output := Path.absolute workingDirectory job.output }

/-- Where the renderer of a tile writes its picture. -/
def Tile.located (tile : Tile) (directory extension : String) : Tile :=
  { tile with outputFile := Path.join [directory, "tile" ++ Text.decimal tile.index ++ extension] }

/-- The tiles of a job, none of them begun. -/
def Job.tiles (job : Job) (directory extension : String) : List Tile :=
  (partition job.width job.height job.workers).map (·.located directory extension)

/-- An error of a writer as an error about a tile's artifact. -/
def Error.ofWriter (tile : Tile) (error : Error) : Error :=
  match error.root with
  | .artifact .. => error
  | _ => .artifact tile.index "" (.reported error.message)

/-- Writes the artifacts of tiles in order, up to the first that fails. -/
def writeArtifacts (writer : Writer) (job : Job) :
    FileStore → List Tile → FileStore × Except Error (List String)
  | store, [] => (store, .ok [])
  | store, tile :: more =>
    match writer store job tile with
    | (store, .error error) => (store, .error (error.ofWriter tile))
    | (store, .ok path) =>
      match writeArtifacts writer job store more with
      | (store, .error error) => (store, .error error)
      | (store, .ok paths) => (store, .ok (path :: paths))

/-- What happened to a tile. -/
structure TileResult where
  index : Int64 := 0
  startColumn : Int64 := 0
  endColumn : Int64 := 0
  state : WorkerState := .idle
  exitCode : Int64 := 0
  lines : Int64 := 0
  elapsed : String := ""
  deriving DecidableEq, Repr, Inhabited

/-- What happened to the tile of a worker. -/
def Worker.result (worker : Worker) : TileResult :=
  { index := worker.tile.index
    startColumn := worker.tile.startColumn
    endColumn := worker.tile.endColumn
    state := worker.state
    exitCode := worker.exitCode
    lines := worker.tile.render.line
    elapsed := worker.tile.render.elapsed.text }

/-- A started job: its workers with their processes, how many tiles have not ended, and whether the
program has stopped over it at a division by zero. -/
structure Run where
  id : String := ""
  crew : List Running := []
  remaining : Nat := 0
  isSnapshot : Bool := false
  isBroken : Bool := false
  deriving DecidableEq, Repr, Inhabited

namespace Run

/-- Lets something happen to one worker. -/
def act (run : Run) (index : Nat) (deed : Running → Running × List Event) : Run × List Event :=
  match run.crew[index]? with
  | none => (run, [])
  | some running =>
    let (running, events) := deed running
    ({ run with crew := run.crew.set index running }, events)

/-- The process of a worker could not be started. -/
def reject (failure : Failure) (running : Running) : Running × List Event :=
  let (worker, event) := running.worker.fail .failedToStart failure
  ({ running with worker }, [event])

/-- The process of a worker has been started. -/
def enter (running : Running) : Running × List Event :=
  ({ running with worker := running.worker.launched }, [])

/-- The process of a worker writes: one event for each read. A worker without a process is left as it
is. -/
def emit (isError : Bool) (text : Bytes) (running : Running) : Running × List Event :=
  if running.worker.state = .running then running.readAll ((reads text).map ((isError, ·)))
  else (running, [])

/-- The process of a worker ends. A worker without a process is left as it is. -/
def close (ending : Ending) (running : Running) : Running × List Event :=
  if running.worker.state = .running then
    let (worker, event) := running.finish ending
    ({ running with worker }, [event])
  else (running, [])

/-- Lets the same happen to all workers, in the order of the tiles. -/
def actAll (run : Run) (deed : Running → Running × List Event) : Run × List Event :=
  let outcomes := run.crew.map deed
  ({ run with crew := outcomes.map (·.1) }, outcomes.flatMap (·.2))

/-- Sets the renderers to work, or learns why they cannot be. -/
def launch (run : Run) : Option Failure → Run × List Event
  | none => run.actAll enter
  | some failure => run.actAll (reject failure)

/-- Ends every process that is still running, as cancelling a job and running out of time do. -/
def kill (run : Run) : Run × List Event := run.actAll (close (.broken (.killed .kill)))

/-- Whether no more events are taken in. -/
def isOver (run : Run) : Bool := run.remaining = 0 || run.isBroken

end Run

namespace Session

/-- The session without a job. -/
def cleared (session : Session) : Session :=
  { options := session.options, writer := session.writer, compositor := session.compositor }

/-- Whether a job is configured. -/
def isConfigured (session : Session) : Bool := !session.crew.isEmpty

/-- The writer for a job in the given directory. -/
def writerFor (session : Session) (directory : String) : Writer :=
  session.writer.getD (Artifact.write { directory, libraryPaths := session.options.libraryPaths })

/-- The directory for a job with the given identifier. -/
def directoryFor (session : Session) (store : FileStore) (id : String) : String :=
  Path.absolute store.workingPath (Path.join [session.options.scratch, id])

/-- Takes up a job whose artifacts are written. -/
def install (session : Session) (id directory : String) (job : Job) (tiles : List Tile)
    (artifacts : List String) : Session :=
  { session with
    id, directory, artifacts
    board := { job, tiles }
    crew := tiles.map fun tile => { tile }
    isSnapshot := false
    isStarted := false }

/-- Configures a job under a fresh identifier, in place of any other. A job that is refused, or whose
directory cannot be made, leaves the session as it is. When an artifact cannot be written the
directory is removed and the session is left without a job. -/
def configure (session : Session) (store : FileStore) (id : String) (job : Job) :
    Session × FileStore × Except Error Unit :=
  let job := job.withDefaults
  match job.validate, Format.extension (.ofString job.format) with
  | .error error, _ => (session, store, .error error)
  | _, .error error => (session, store, .error error)
  | .ok (), .ok extension =>
    let job := job.located store.workingPath
    let directory := session.directoryFor store id
    match store.makeDirectories directory with
    | (store, .error error) => (session, store, .error (.scratch error))
    | (store, .ok ()) =>
      let tiles := job.tiles directory extension
      match writeArtifacts (session.writerFor directory) job store tiles with
      | (store, .error error) => (session.cleared, store.removeTree directory, .error error)
      | (store, .ok artifacts) => (session.install id directory job tiles artifacts, store, .ok ())

/-- The tile with no line done. -/
def rewound (tile : Tile) : Tile := { tile with render := { tile.render with line := 0 } }

/-- Starts the configured job. It can be started once. -/
def start (session : Session) (isSnapshot : Bool) : Except Error (Session × Run) :=
  if !session.isConfigured then .error .notConfigured
  else if session.isStarted then .error .alreadyStarted
  else
    let crew := session.crew.map Worker.start
    .ok (
      { session with
        crew, isSnapshot
        isStarted := true
        board := { session.board with tiles := session.board.tiles.map rewound }
        compositor := session.compositor.begin session.board.job.output },
      { id := session.id
        crew := crew.map fun worker => { worker }
        remaining := crew.length
        isSnapshot })

/-- The session with its workers as they are in a run of its job. -/
def observe (session : Session) (run : Run) : Session :=
  if session.id = run.id then { session with crew := run.crew.map (·.worker) } else session

/-- The event that ends a job. -/
def closing? (session : Session) (run : Run) : Option Event :=
  session.board.progress?.map fun progress =>
    { kind := .jobFinished, isSnapshot := run.isSnapshot, progress }

/-- What is passed on before any event: the end, if there are no tiles to wait for. -/
def opening (session : Session) (run : Run) : List Event :=
  if run.remaining = 0 then (session.closing? run).toList else []

/-- Puts the picture of a finished tile on the canvas. A picture that cannot be read or saved is passed
over. -/
def collect (session : Session) (store : FileStore) (token : String) (event : Event) :
    Session × FileStore :=
  if event.kind = .tileFinished then
    let (compositor, store, _) :=
      session.compositor.applyFile store token event.tile.outputFile event.tile.rect
    ({ session with compositor }, store)
  else (session, store)

/-- Nothing but the canvas is touched by that. -/
theorem collect_session (session : Session) (store : FileStore) (token : String) (event : Event) :
    ∃ compositor, (session.collect store token event).1 = { session with compositor } := by
  simp only [collect]
  split
  · exact ⟨_, rfl⟩
  · exact ⟨session.compositor, rfl⟩

/-- Takes in one event: a finished tile is put on the canvas, the board is brought up to date, and the
event is passed on with the snapshot mark and the progress. After the last tile the job is finished,
and later events are not taken in. If the board has no progress the program stops, and nothing is passed
on. -/
def receive (session : Session) (run : Run) (store : FileStore) (token : String) (event : Event) :
    Session × Run × FileStore × List Event :=
  if run.isOver then (session, run, store, [])
  else
    let (session, store) := session.collect store token event
    let session := { session with board := session.board.update event.tile }
    let run := if event.kind.isTerminal then { run with remaining := run.remaining - 1 } else run
    match session.board.progress? with
    | none => (session, { run with isBroken := true }, store, [])
    | some progress =>
      let passed := { event with isSnapshot := run.isSnapshot, progress }
      (session, run, store, passed :: session.opening run)

/-- Takes in events in order. Each event that is passed on comes with the board of its moment. -/
def receiveAll (session : Session) (run : Run) (store : FileStore) (token : String) :
    List Event → Session × Run × FileStore × List (Board × Event)
  | [] => (session, run, store, [])
  | event :: more =>
    let (session, run, store, passed) := session.receive run store token event
    let (after, run, store, rest) := session.receiveAll run store token more
    (after, run, store, passed.map ((session.board, ·)) ++ rest)

/-- What happened to the tiles. -/
def results (session : Session) : List TileResult := session.crew.map Worker.result

end Session

end Mosaic
