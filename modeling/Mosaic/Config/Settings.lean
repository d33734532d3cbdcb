import Mosaic.Config.Eval
import Mosaic.Config.Grammar
import Mosaic.Duration
import Mosaic.Job
import Mosaic.Renderer

/-! The settings of a configuration document: how to run renderers, and the jobs to render. -/
namespace Mosaic

namespace Config

/-- The renderer block as written. Empty texts stand for arguments that were left out. -/
structure RendererBlock where
  executable : String := ""
  workingDirectory : String := ""
  scratch : String := ""
  libraryPaths : List String := []
  timeout : String := ""
  deriving DecidableEq, Repr, Inhabited

/-- The document as written. The jobs are blocks before defaults; zeros and empty texts stand for
arguments that were left out. -/
structure Settings where
  workers : Int64 := 0
  renderer : Option RendererBlock := none
  blocks : List Job := []
  deriving DecidableEq, Repr, Inhabited

namespace Settings

/-- The directory for temporary files where the environment names none. -/
def standardTemporary : String := "/tmp"

/-- The scratch directory where the document names none. -/
def standardScratch (temporary : String) : String := Path.join [temporary, "tilerender"]

/-- The number of workers for jobs that give none: that of the document, or else one for each
processor. -/
def standardWorkers (settings : Settings) (processors : Int64) : Int64 :=
  if 0 < settings.workers then settings.workers else processors

/-- How renderers are run, with defaults in place; `temporary` is the directory for temporary files.
Only the timeout can be wrong. -/
def rendererOptions (settings : Settings) (temporary : String) :
    Except Error RendererOptions :=
  let standard : RendererOptions := { scratch := standardScratch temporary }
  match settings.renderer with
  | none => .ok standard
  | some block =>
    let options : RendererOptions := {
      executable := if block.executable.isEmpty then standard.executable else block.executable
      workingDirectory := block.workingDirectory
      scratch := if block.scratch.isEmpty then standard.scratch else block.scratch
      libraryPaths := block.libraryPaths }
    if block.timeout.isEmpty then .ok options
    else
      match Duration.parse block.timeout with
      | .ok timeout => .ok { options with timeout }
      | .error fault => .error (.timeout fault)

/-- A block with defaults in place. A block without workers gets no more of them than it has
columns. -/
def complete (settings : Settings) (processors : Int64) (block : Job) : Job :=
  let width := if block.width = 0 then Job.standardWidth else block.width
  let height := if block.height = 0 then Job.standardHeight else block.height
  let workers :=
    if block.workers = 0 then min (settings.standardWorkers processors) width else block.workers
  { block with width, height, workers }.withDefaults

/-- The jobs of the document in its order. -/
def jobs (settings : Settings) (processors : Int64) : List Job :=
  settings.blocks.map (settings.complete processors)

/-- The job of a name. -/
def job? (settings : Settings) (processors : Int64) (name : String) : Option Job :=
  (settings.blocks.find? (·.name == name)).map (settings.complete processors)

/-- Accepts blocks with new names that make valid jobs, and otherwise gives the first fault in the
document's order. A repeated name counts before the block's own faults. -/
def validateBlocks (settings : Settings) (processors : Int64) : List String → List Job → Except Error Unit
  | _, [] => .ok ()
  | seen, block :: more =>
    if block.name ∈ seen then .error (.duplicateJob block.name)
    else
      match (settings.complete processors block).validate with
      | .error error => .error (.inJob block.name error)
      | .ok () => validateBlocks settings processors (block.name :: seen) more

/-- Accepts settings that can be used: first the timeout counts, then the jobs. -/
def validate (settings : Settings) (processors : Int64) : Except Error Unit :=
  match settings.rendererOptions standardTemporary with
  | .error error => .error error
  | .ok _ => settings.validateBlocks processors [] settings.blocks

/-- The value of an argument, if it is there. -/
def argument (scope : Scope) (items : List Item) (name : String) : Except Error (Option Value) :=
  match items.findSome? fun
      | .argument other value => if other = name then some value else none
      | .block .. => none with
  | none => .ok none
  | some value =>
    match (value.eval scope).value? with
    | some value => .ok (some value)
    | none => .error .document

/-- An argument read in a given way, with a default where it is left out. -/
def argumentAs {α : Type} (scope : Scope) (items : List Item) (name : String) (otherwise : α)
    (read : Value → Option α) : Except Error α := do
  match ← argument scope items name with
  | none => return otherwise
  | some value =>
    match read value with
    | some result => return result
    | none => throw .document

/-- A whole number. -/
def wholeNumber (value : Value) : Option Int64 := value.toNumber?.bind Number.toInt64?

/-- A list of texts; an absent value is the empty list. -/
def texts (value : Value) : Option (List String) :=
  match value.convert? (.list .text) with
  | some (.null _) => some []
  | some (.list _ items) => items.mapM Value.toText?
  | _ => none

/-- Accepts a body whose arguments and blocks all have expected names. -/
def onlyExpects (arguments blocks : List String) (items : List Item) : Bool :=
  items.all fun
    | .argument name _ => arguments.contains name
    | .block name .. => blocks.contains name

/-- Reads a renderer block. -/
def readRenderer (scope : Scope) (items : List Item) : Except Error RendererBlock := do
  if !onlyExpects ["executable", "workdir", "temp_dir", "library_paths", "timeout"] [] items then
    throw .document
  return {
    executable := ← argumentAs scope items "executable" "" Value.toText?
    workingDirectory := ← argumentAs scope items "workdir" "" Value.toText?
    scratch := ← argumentAs scope items "temp_dir" "" Value.toText?
    libraryPaths := ← argumentAs scope items "library_paths" [] texts
    timeout := ← argumentAs scope items "timeout" "" Value.toText? }

/-- Reads a job block. Scene and output are required. -/
def readJob (scope : Scope) (name : String) (items : List Item) : Except Error Job := do
  let known := ["scene", "output", "width", "height", "quality", "antialias", "workers", "format"]
  if !onlyExpects known [] items || !Grammar.hasArgument "scene" items ||
      !Grammar.hasArgument "output" items then
    throw .document
  return {
    name
    scene := ← argumentAs scope items "scene" "" Value.toText?
    output := ← argumentAs scope items "output" "" Value.toText?
    width := ← argumentAs scope items "width" 0 wholeNumber
    height := ← argumentAs scope items "height" 0 wholeNumber
    quality := ← argumentAs scope items "quality" 0 wholeNumber
    antialias := ← argumentAs scope items "antialias" false Value.toBool?
    workers := ← argumentAs scope items "workers" 0 wholeNumber
    format := ← argumentAs scope items "format" "" Value.toText? }

/-- Reads the blocks of a document: at most one renderer without labels, and jobs with one label. -/
def readBlocks (scope : Scope) : List Item → Except Error (List RendererBlock × List Job)
  | [] => .ok ([], [])
  | .block "renderer" labels items :: more => do
    if !labels.isEmpty then throw .document
    let renderer ← readRenderer scope items
    let (renderers, jobs) ← readBlocks scope more
    return (renderer :: renderers, jobs)
  | .block "job" labels items :: more => do
    match labels with
    | [name] =>
      let job ← readJob scope name items
      let (renderers, jobs) ← readBlocks scope more
      return (renderers, job :: jobs)
    | _ => throw .document
  | _ :: more => readBlocks scope more

/-- Reads the settings from the text of a document. -/
def read (environment : String → String) (source : Bytes) : Except Error Settings := do
  match Grammar.document? source with
  | none => throw .document
  | some items =>
    let scope : Scope := { environment }
    if !onlyExpects ["workers"] ["renderer", "job"] items then throw .document
    let workers ← argumentAs scope items "workers" 0 wholeNumber
    let (renderers, jobs) ← readBlocks scope items
    match renderers with
    | [] => return { workers, blocks := jobs }
    | [renderer] => return { workers, renderer := some renderer, blocks := jobs }
    | _ => throw .document

/-- Whether a file name is that of a configuration document. -/
def isDocumentName (path : String) : Bool :=
  Text.toLowerAscii (Path.extension path) == ".hcl"

/-- Reads and validates the settings in a file of the given name. -/
def load (environment : String → String) (processors : Int64) (path : String) (source : Bytes) :
    Except Error Settings := do
  if !isDocumentName path then throw .document
  let settings ← read environment source
  settings.validate processors
  return settings

end Settings

end Config

end Mosaic
