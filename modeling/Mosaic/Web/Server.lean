import Mosaic.Export
import Mosaic.Web.Media
import Mosaic.Web.Page

/-! The status server: a page, its script, the status as JSON and the picture as it stands in its
file. Everything is sent with the order not to keep it. -/
namespace Mosaic.Web

open Text (Json)

/-- How a job stands, as shown to a reader of the page. Tiles are absent where there is no job, progress
and status line where the job has no share. -/
structure Status where
  jobId : String := ""
  job : Job := {}
  progress : Option Int64 := some 0
  elapsed : String := ""
  parseTime : String := ""
  statusLine : Option String := some ""
  tiles : Option (List Tile) := none
  deriving DecidableEq, Repr, Inhabited

/-- The status as JSON, if there is one. -/
def Status.json? (status : Status) : Option Json := do
  let progress ← status.progress
  let statusLine ← status.statusLine
  return .object [
    ("jobId", .text status.jobId),
    ("job", status.job.json),
    ("progress", .number progress),
    ("elapsed", .text status.elapsed),
    ("parseTime", .text status.parseTime),
    ("statusLine", .text statusLine),
    ("tiles", status.tiles.elim .null fun tiles => .list (tiles.map Tile.json))]

/-- What is asked for. -/
structure Request where
  method : String := "GET"
  target : String := "/"
  deriving DecidableEq, Repr, Inhabited

namespace Request

/-- Whether a character may stand in the scheme of an address. -/
def isSchemeChar (c : Char) : Bool := c.isAlphanum || c == '+' || c == '-' || c == '.'

/-- What follows the scheme of an address; none if it has no scheme. -/
def afterScheme? (address : List Char) : Option (List Char) :=
  match address.dropWhile isSchemeChar with
  | ':' :: rest => if address.head?.any Char.isAlpha then some rest else none
  | _ => none

/-- The target as an address. One that asks for a connection may name a host only. -/
def address (request : Request) : List Char :=
  let isHost := request.method = "CONNECT" && request.target.toList.head? != some '/'
  if isHost then "http://".toList ++ request.target.toList else request.target.toList

/-- The path of the target: without scheme, host and query; the root where nothing is left. -/
def path (request : Request) : String :=
  let kept := match afterScheme? request.address with
    | none => request.address.takeWhile (· != '?')
    | some rest =>
      match rest.takeWhile (· != '?') with
      | '/' :: '/' :: hosted => hosted.dropWhile (· != '/')
      | '/' :: more => '/' :: more
      | _ => []
  if kept = [] then "/" else String.ofList kept

/-- The query with its question mark; nothing if it is empty. -/
def query (request : Request) : String :=
  match request.address.dropWhile (· != '?') with
  | [_] => ""
  | query => String.ofList query

/-- The methods that a server knows. -/
def knownMethods : List String :=
  ["CONNECT", "DELETE", "GET", "HEAD", "OPTIONS", "PATCH", "POST", "PUT", "TRACE"]

end Request

/-- What is sent back. An absent location and an empty list of allowed methods are not sent. -/
structure Response where
  status : Nat := 200
  contentType : String := ""
  allow : String := ""
  location : Option String := none
  body : Content := .bytes []
  deriving Inhabited

namespace Response

/-- The order not to keep a response. -/
def cacheControl : String :=
  "no-cache, no-store, no-transform, must-revalidate, private, max-age=0"

/-- A text of a type. -/
def text (contentType body : String) : Response := { contentType, body := .bytes (.ofString body) }

/-- A short text that explains a failure. -/
def failure (status : Nat) (message : String) : Response :=
  { text plainText (message ++ "\n") with status }

/-- Nothing stands at the path. -/
def notFound : Response := failure 404 "404 page not found"

/-- Something is wrong on this side. -/
def internalError : Response := failure 500 "500 Internal Server Error"

/-- The path is for other methods. -/
def methodNotAllowed (allow : String) : Response := { status := 405, allow }

/-- The same thing is found elsewhere, seen from the path. -/
def redirect (request : Request) (location : String) : Response :=
  { status := 301, location := some (location ++ request.query) }

/-- A file. -/
def file (name : String) (content : Content) : Response :=
  { contentType := mediaType name content, body := content }

end Response

/-- The paths of the places that a path passes through, itself included. -/
def placesOn (path : String) : List String :=
  let names := FileStore.pathNames path
  (List.range names.length).filterMap fun i =>
    if names[i]? = some "" then none else some ("/".intercalate (names.take (i + 1)))

/-- The response where a file cannot be opened. A path that leads through a file leads nowhere; other
faults are not the reader's. -/
def openFailure (store : FileStore) (path : String) (errno : Errno) : Response :=
  if errno = .noEntry then .notFound
  else
    let passed := (placesOn path).map fun place => (store.stat place).map Node.isDirectory
    match passed.find? fun
        | .ok isDirectory => !isDirectory
        | .error _ => true with
    | some (.ok _) => .notFound
    | _ => .internalError

/-- The picture of a job: the file as it stands, once a tile is finished. The last name of its path is
taken by itself, so that it cannot lead upwards. -/
def pictureResponse (status : Status) (store : FileStore) (request : Request) : Response :=
  let output := status.job.output
  if output.isEmpty then .failure 404 "no render job"
  else
    match store.stat output with
    | .error .noEntry => .failure 404 "no tile finished yet"
    | _ =>
      let directory := Path.upToLastSlash output.toList
      let name := Path.cleanChars ('/' :: Path.lastName output.toList)
      let path := Path.join [if directory = [] then "." else String.ofList directory, String.ofList name]
      if name.contains (Char.ofNat 0) then .internalError
      else
        match store.stat path with
        | .error errno => openFailure store path errno
        | .ok .directory => .redirect request (Path.base request.path ++ "/")
        | .ok (.file content) => .file (Path.base path) content
        | .ok _ => .file (Path.base path) (.bytes [])

/-- The value of a hexadecimal digit. -/
def hexDigit? (c : Char) : Option Nat :=
  if c.isDigit then some (c.toNat - 48)
  else if 'a' ≤ c && c ≤ 'f' then some (c.toNat - 87)
  else if 'A' ≤ c && c ≤ 'F' then some (c.toNat - 55)
  else none

/-- Bytes of a path in which bytes may be written as a percent sign and two digits. -/
def percentDecoded : List Char → Bytes
  | [] => []
  | '%' :: a :: b :: rest =>
    match hexDigit? a, hexDigit? b with
    | some x, some y => UInt8.ofNat (16 * x + y) :: percentDecoded rest
    | _, _ => Bytes.ofString "%" ++ percentDecoded (a :: b :: rest)
  | c :: rest => Bytes.ofString c.toString ++ percentDecoded rest

/-- The listing of the directory with the page's files. -/
def staticListing : String :=
  String.join ["<!doctype html>\n", "<meta name=\"viewport\" content=\"width=device-width\">\n",
    "<pre>\n", "<a href=\"status.js\">status.js</a>\n", "</pre>\n"]

/-- The files of the page, which are in one directory: its listing or one of them. `name` is what
follows the directory in the path, with a character for each byte: names that are no text cannot be
looked for. -/
def staticResponse (request : Request) (name : String) : Response :=
  let path := if Path.isAbsolute name then name else "/" ++ name
  let isOpen := path.toList.getLast? = some '/'
  if "/index.html".toList.isSuffixOf path.toList then .redirect request "./"
  else
    match Path.clean path with
    | "/" =>
      if isOpen then .text pageText staticListing
      else .redirect request (Path.base path ++ "/")
    | "/status.js" =>
      if isOpen then .redirect request ("../" ++ Path.base path)
      else if request.method = "HEAD" then .file "status.js" (.bytes [])
      else .file "status.js" (.bytes (.ofString script))
    | cleaned =>
      let isText := (Text.decode? (cleaned.toList.map fun c => c.toNat.toUInt8)).isSome
      let isBelowFile := "/status.js/".toList.isPrefixOf cleaned.toList
      if isText || isBelowFile then .notFound else .internalError

/-- The status of a job as a text. Where there is none the reader is only told so. -/
def statusResponse (status : Status) : Response :=
  match status.json? with
  | some json => .text "application/json" (json.compact ++ "\n")
  | none => { status := 500, contentType := "application/json" }

/-- A response to readers only. -/
def onGet (request : Request) (response : Response) : Response :=
  if request.method = "GET" then response else .methodNotAllowed "GET"

/-- The response to a request. -/
def respond (status : Status) (store : FileStore) (request : Request) : Response :=
  if !Request.knownMethods.contains request.method then .methodNotAllowed ""
  else
    match request.path with
    | "/" => onGet request (.text pageText (page status.job.name))
    | "/api/status" => onGet request (statusResponse status)
    | "/api/image" => onGet request (pictureResponse status store request)
    | path =>
      if "/static/".toList.isPrefixOf path.toList then
        let bytes := percentDecoded (path.toList.drop 8)
        staticResponse request (String.ofList (bytes.map fun byte => Char.ofNat byte.toNat))
      else .notFound

end Mosaic.Web
