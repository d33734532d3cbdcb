/-! Slash-separated paths as texts: their last name, extension and directory, and the shortest
equivalent form. Nothing here looks at files. -/
namespace Mosaic.Path

/-- The names between slashes, empty ones included. -/
def names : List Char → List (List Char)
  | [] => [[]]
  | '/' :: rest => [] :: names rest
  | c :: rest =>
    match names rest with
    | [] => [[c]]
    | name :: more => (c :: name) :: more

/-- What stands after the last slash. -/
def lastName (path : List Char) : List Char :=
  (path.reverse.takeWhile (· != '/')).reverse

/-- What stands up to and including the last slash. -/
def upToLastSlash (path : List Char) : List Char :=
  (path.reverse.dropWhile (· != '/')).reverse

/-- The last name from its last dot on; empty if it has no dot. -/
def extensionOf (path : List Char) : List Char :=
  let name := lastName path
  if name.contains '.' then '.' :: (name.reverse.takeWhile (· != '.')).reverse else []

/-- Applies a name to a stack of names: `..` removes the name above it, or is kept where there is
none and the path does not start at the root. -/
def push (rooted : Bool) (stack : List (List Char)) (name : List Char) : List (List Char) :=
  if name = [] || name = ['.'] then stack
  else if name = ['.', '.'] then
    match stack with
    | [] => if rooted then [] else [name]
    | top :: below => if top = ['.', '.'] then name :: stack else below
  else name :: stack

/-- Names joined by slashes. -/
def joinNames : List (List Char) → List Char
  | [] => []
  | [name] => name
  | name :: more => name ++ '/' :: joinNames more

/-- The shortest equivalent path: no empty name, no `.`, and `..` only at the front of a relative
path. The empty path becomes `.`. -/
def cleanChars (path : List Char) : List Char :=
  let rooted := path.head? == some '/'
  let kept := ((names path).foldl (push rooted) []).reverse
  if rooted then '/' :: joinNames kept
  else if kept = [] then ['.'] else joinNames kept

/-- Whether a path starts at the root. -/
def isAbsolute (path : String) : Bool := path.toList.head? == some '/'

/-- The shortest equivalent path. -/
def clean (path : String) : String := String.ofList (cleanChars path.toList)

/-- The extension with its dot, or the empty text. -/
def extension (path : String) : String := String.ofList (extensionOf path.toList)

/-- The path without its extension. -/
def withoutExtension (path : String) : String :=
  String.ofList (path.toList.take (path.toList.length - (extensionOf path.toList).length))

/-- The directory that holds the path's last name. -/
def directory (path : String) : String :=
  String.ofList (cleanChars (upToLastSlash path.toList))

/-- The last name, trailing slashes ignored: `.` for the empty path and `/` for the root. -/
def base (path : String) : String :=
  if path.isEmpty then "."
  else
    match lastName (path.toList.reverse.dropWhile (· == '/')).reverse with
    | [] => "/"
    | name => String.ofList name

/-- Joins the non-empty parts by slashes and cleans the result; empty if every part is. -/
def join (parts : List String) : String :=
  match parts.filter (!·.isEmpty) with
  | [] => ""
  | kept => String.ofList (cleanChars (joinNames (kept.map String.toList)))

/-- The path seen from the root, relative paths taken from the working directory. -/
def absolute (workingDirectory path : String) : String :=
  if isAbsolute path then clean path else join [workingDirectory, path]

end Mosaic.Path
