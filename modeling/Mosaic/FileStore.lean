import Mosaic.Location
import Mosaic.Path
import Mosaic.Picture.Stored

/-! Files and directories as a value. They stand at locations; paths are texts and are followed from the
root or from the working directory, name by name. What is asked of the files may be refused for reasons
that lie outside of them. -/
namespace Mosaic

/-- What stands at a location. A program is a file that can be run. A link is another name for a file;
paths are given with the names of the directories themselves. -/
inductive Node where
  | file (content : Content)
  | program
  | directory
  | link (target : Location)
  deriving Inhabited

namespace Node

/-- Whether the node is a directory. -/
def isDirectory : Node → Bool
  | directory => true
  | _ => false

end Node

/-- What can be asked of the file system and be refused: a file is opened for reading or for writing,
written, closed or moved, or a directory is made. -/
inductive Operation where
  | read
  | create
  | write
  | close
  | rename
  | makeDirectory
  deriving DecidableEq, Repr, Inhabited

/-- Why something is refused, and what a refused write has written by then. -/
structure Refusal where
  errno : Errno
  written : Bytes := []
  deriving DecidableEq, Repr, Inhabited

/-- All files and directories but the root, which is always there; and what is refused although the files
would allow it, as on a full or a failing device. -/
structure FileStore where
  workingDirectory : Location
  entries : List (Location × Node) := []
  refuses : Operation → String → Option Refusal := fun _ _ => none
  deriving Inhabited

namespace FileStore

/-- What stands at a location. -/
def find (store : FileStore) (location : Location) : Option Node :=
  if location = .root then some .directory
  else (store.entries.find? (·.1 == location)).map (·.2)

/-- Puts a node at a location, in place of what stood there. -/
def put (store : FileStore) (location : Location) (node : Node) : FileStore :=
  { store with entries := store.entries.filter (·.1 != location) ++ [(location, node)] }

/-- Takes away what stands at a location. -/
def erase (store : FileStore) (location : Location) : FileStore :=
  { store with entries := store.entries.filter (·.1 != location) }

/-- Takes away a location and everything below it. -/
def eraseTree (store : FileStore) (location : Location) : FileStore :=
  { store with entries := store.entries.filter fun (other, _) => !other.isWithin location }

/-- The names of a path, empty ones included. -/
def pathNames (path : String) : List String := (Path.names path.toList).map String.ofList

/-- The greatest size of a name, in bytes. -/
def nameLimit : Nat := 255

/-- The greatest size of a path, in bytes. -/
def pathLimit : Nat := 4095

/-- The greatest number of links that are followed one after the other. -/
def linkLimit : Nat := 40

/-- Follows one name from a location, which must be a directory. -/
def follow (store : FileStore) (location : Location) (name : String) : Except Errno Location :=
  match store.find location with
  | none => .error .noEntry
  | some .directory =>
    if name = "" || name = "." then .ok location
    else if name = ".." then .ok location.parent
    else if nameLimit < name.utf8ByteSize then .error .nameTooLong
    else .ok (location.child name)
  | some _ => .error .notDirectory

/-- What is wrong with a path whatever there is, if anything. -/
def pathFault? (path : String) : Option Errno :=
  if path.isEmpty then some .noEntry
  else if path.toList.contains (Char.ofNat 0) then some .invalidArgument
  else if pathLimit < path.utf8ByteSize then some .nameTooLong
  else none

/-- Where a path starts. -/
def start (store : FileStore) (path : String) : Location :=
  if Path.isAbsolute path then .root else store.workingDirectory

/-- The location of a path. Everything before the last name must be a directory; at the location itself
nothing need be. -/
def resolve (store : FileStore) (path : String) : Except Errno Location :=
  match pathFault? path with
  | some errno => .error errno
  | none => (pathNames path).foldlM store.follow (store.start path)

/-- Where a location leads when at most so many links are followed. -/
def chase (store : FileStore) : Nat → Location → Except Errno Location
  | 0, location =>
    match store.find location with
    | some (.link _) => .error .tooManyLinks
    | _ => .ok location
  | limit + 1, location =>
    match store.find location with
    | some (.link target) => store.chase limit target
    | _ => .ok location

/-- The location of the file that a path names: of the one at its location, or of the one that the link
there leads to. A link must lead into a directory. -/
def destination (store : FileStore) (path : String) : Except Errno Location := do
  let location ← store.resolve path
  let last ← store.chase linkLimit location
  if last = location then .ok last
  else
    match store.find last.parent with
    | some .directory => .ok last
    | some _ => .error .notDirectory
    | none => .error .noEntry

/-- The location of a path and what stands there. -/
def locate (store : FileStore) (path : String) : Except Errno (Location × Node) := do
  let location ← store.resolve path
  match store.find location with
  | some node => .ok (location, node)
  | none => .error .noEntry

/-- What stands at a path, or where the link at it leads. -/
def stat (store : FileStore) (path : String) : Except Errno Node := do
  match store.find (← store.destination path) with
  | some node => .ok node
  | none => .error .noEntry

/-- Opens what stands at a path for reading. -/
def openFile (store : FileStore) (path : String) : Except FileError Node :=
  match store.refuses .read path, store.stat path with
  | some refusal, _ => .error (.onPath "open" path refusal.errno)
  | none, .ok node => .ok node
  | none, .error errno => .error (.onPath "open" path errno)

/-- Opens a file for writing, which empties it, and says where it is. -/
def create (store : FileStore) (path : String) : Except FileError (Location × FileStore) :=
  match store.refuses .create path, store.destination path with
  | some refusal, _ => .error (.onPath "open" path refusal.errno)
  | none, .error errno => .error (.onPath "open" path errno)
  | none, .ok location =>
    match store.find location with
    | some .directory => .error (.onPath "open" path .isDirectory)
    | _ => .ok (location, store.put location (.file (.bytes [])))

/-- Writes an open file and closes it. -/
def fill (store : FileStore) (location : Location) (path : String) (content : Content) :
    FileStore × Except FileError Unit :=
  match store.refuses .write path, store.refuses .close path with
  | some refusal, _ =>
    (store.put location (.file (.bytes refusal.written)), .error (.onPath "write" path refusal.errno))
  | none, some refusal =>
    (store.put location (.file content), .error (.onPath "close" path refusal.errno))
  | none, none => (store.put location (.file content), .ok ())

/-- Writes a file. One that was opened is no longer what it was, also where the writing is refused. -/
def write (store : FileStore) (path : String) (content : Content) :
    FileStore × Except FileError Unit :=
  match store.create path with
  | .error error => (store, .error error)
  | .ok (location, opened) => opened.fill location path content

/-- Removes the file or the link at a path, if there is one. -/
def remove (store : FileStore) (path : String) : FileStore :=
  match store.resolve path with
  | .error _ => store
  | .ok location => store.erase location

/-- Moves a file over a path. A link there is replaced itself; a directory is never replaced. -/
def rename (store : FileStore) (source target : String) : Except FileError FileStore :=
  match store.refuses .rename target with
  | some refusal => .error (.onPaths "rename" source target refusal.errno)
  | none =>
    match store.resolve source, store.resolve target with
    | .ok old, .ok new =>
      match store.find new, store.find old with
      | some .directory, _ => .error (.onPaths "rename" source target .alreadyExists)
      | _, some node => .ok ((store.erase old).put new node)
      | _, none => .error (.onPaths "rename" source target .noEntry)
    | .error errno, _ => .error (.onPaths "rename" source target errno)
    | _, .error errno => .error (.onPaths "rename" source target errno)

/-- The path of the directory that holds a path's last name, trailing slashes ignored; none if only one
name is left. -/
def parentPath? (path : String) : Option String :=
  let trimmed := (path.toList.reverse.dropWhile (· == '/')).reverse
  let before := Path.upToLastSlash trimmed
  if before.length ≤ 1 then none else some (String.ofList before.dropLast)

/-- Makes sure that a directory stands at a path whose last name is seen from the given location. -/
def makeDirectoryIn (store : FileStore) (location : Location) (path : String) :
    FileStore × Except FileError Location :=
  match (pathFault? path).elim (store.follow location (Path.base path)) .error with
  | .error errno => (store, .error (.onPath "mkdir" path errno))
  | .ok location =>
    match store.find location, store.refuses .makeDirectory path with
    | none, none => (store.put location .directory, .ok location)
    | none, some refusal => (store, .error (.onPath "mkdir" path refusal.errno))
    | some .directory, _ => (store, .ok location)
    | some _, _ => (store, .error (.onPath "mkdir" path .alreadyExists))

/-- Makes a directory and those above it that are missing, and says where it is. Directories made before
a failure stay. -/
def makeDirectoriesFrom : Nat → FileStore → String → FileStore × Except FileError Location
  | 0, store, path => (store, .ok (store.start path))
  | fuel + 1, store, path =>
    match store.locate path, store.stat path with
    | .ok (location, .directory), _ => (store, .ok location)
    | _, .ok _ => (store, .error (.onPath "mkdir" path .notDirectory))
    | _, .error _ =>
      match (parentPath? path).elim (store, .ok (store.start path)) (makeDirectoriesFrom fuel store) with
      | (store, .error error) => (store, .error error)
      | (store, .ok location) => store.makeDirectoryIn location path

/-- Makes a directory and those above it that are missing. -/
def makeDirectories (store : FileStore) (path : String) : FileStore × Except FileError Unit :=
  let (store, made) := makeDirectoriesFrom (path.length + 1) store path
  (store, made.map fun _ => ())

/-- Makes sure that something stands at a path, as a directory if nothing does. -/
def ensureDirectory (store : FileStore) (path : String) : FileStore × Except FileError Unit :=
  if path.isEmpty then (store, .ok ())
  else
    match store.stat path with
    | .ok _ => (store, .ok ())
    | .error .noEntry => store.makeDirectories path
    | .error errno => (store, .error (.onPath "stat" path errno))

/-- Removes a path and everything below it. -/
def removeTree (store : FileStore) (path : String) : FileStore :=
  match store.resolve path with
  | .error _ => store
  | .ok location => store.eraseTree location

/-- The working directory's path. -/
def workingPath (store : FileStore) : String := store.workingDirectory.path

/-- Whether nothing stands below a location. -/
def isBare (store : FileStore) (location : Location) : Bool :=
  store.entries.all fun (other, _) => !other.isBelow location

/-- The files below the working directory as relative paths, and its empty directories with a slash
at the end. -/
def listing (store : FileStore) : List String :=
  store.entries.filterMap fun (location, node) =>
    if location.isBelow store.workingDirectory then
      let path := location.pathFrom store.workingDirectory
      match node with
      | .directory => if store.isBare location then some (path ++ "/") else none
      | _ => some path
    else none

end FileStore

end Mosaic
