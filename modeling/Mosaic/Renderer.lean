import Mosaic.FileStore

/-! How renderers are run, and why one may not start. -/
namespace Mosaic

/-- How renderers are run. A timeout of zero means none; it counts nanoseconds. -/
structure RendererOptions where
  executable : String := "povray"
  workingDirectory : String := ""
  scratch : String := ""
  libraryPaths : List String := []
  timeout : Int64 := 0
  deriving DecidableEq, Repr, Inhabited

namespace RendererOptions

/-- Whether one of the directories of a search path holds a program of the given name. -/
def isOnSearchPath (store : FileStore) (searchPath name : String) : Bool :=
  (searchPath.splitOn ":").any fun directory =>
    match store.stat (Path.join [directory, name]) with
    | .ok .program => true
    | _ => false

/-- The working directory of renderers. -/
def launchDirectory (options : RendererOptions) (store : FileStore) : Except Errno Location :=
  if options.workingDirectory.isEmpty then .ok store.workingDirectory
  else do
    let location ← store.resolve options.workingDirectory
    match store.find location with
    | some .directory => .ok location
    | some _ => .error .notDirectory
    | none => .error .noEntry

/-- Why the executable cannot be run, if it cannot. A name without a slash is looked for on the search
path. Another one is a path seen from the renderers' working directory, which must be there. Renderers are
told that directory in their environment, which takes no NUL. -/
def launchFailure? (options : RendererOptions) (store : FileStore) (searchPath : String) :
    Option Failure :=
  let name := options.executable
  let isNamed := !name.toList.contains '/'
  if name.isEmpty then some .noCommand
  else if isNamed && !isOnSearchPath store searchPath name then some (.notFound name)
  else if options.workingDirectory.toList.contains (Char.ofNat 0) then some .environment
  else if isNamed then none
  else
    match options.launchDirectory store with
    | .error errno => some (.launch name errno)
    | .ok location =>
      match { store with workingDirectory := location }.stat name with
      | .error errno => some (.launch name errno)
      | .ok .program => none
      | .ok _ => some (.launch name .permissionDenied)

end RendererOptions

end Mosaic
