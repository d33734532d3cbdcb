import Mosaic.Encoding
import Mosaic.Text.Decimal
import Mosaic.Text.Quoted

/-! What can go wrong, as causes. Each cause has one wording, given by its `message`. -/
namespace Mosaic

/-- Why the file system refuses an operation. -/
inductive Errno where
  | noEntry
  | notDirectory
  | isDirectory
  | alreadyExists
  | permissionDenied
  | invalidArgument
  | nameTooLong
  | tooManyLinks
  | noSpace
  | inputOutput
  | separatorInPattern
  deriving DecidableEq, Repr, Inhabited

namespace Errno

/-- The wording of a refusal. -/
def message : Errno → String
  | noEntry => "no such file or directory"
  | notDirectory => "not a directory"
  | isDirectory => "is a directory"
  | alreadyExists => "file exists"
  | permissionDenied => "permission denied"
  | invalidArgument => "invalid argument"
  | nameTooLong => "file name too long"
  | tooManyLinks => "too many levels of symbolic links"
  | noSpace => "no space left on device"
  | inputOutput => "input/output error"
  | separatorInPattern => "pattern contains path separator"

end Errno

/-- A refused operation on one path, or on a source and a target. -/
inductive FileError where
  | onPath (operation path : String) (errno : Errno)
  | onPaths (operation source target : String) (errno : Errno)
  deriving DecidableEq, Repr, Inhabited

namespace FileError

/-- The reason of the refusal. -/
def errno : FileError → Errno
  | onPath _ _ errno => errno
  | onPaths _ _ _ errno => errno

/-- The operation, its paths and the reason. -/
def message : FileError → String
  | onPath operation path errno => operation ++ " " ++ path ++ ": " ++ errno.message
  | onPaths operation source target errno =>
    operation ++ " " ++ source ++ " " ++ target ++ ": " ++ errno.message

end FileError

/-- A signal that ends a process. -/
structure Signal where
  number : Nat
  deriving DecidableEq, Repr, Inhabited

namespace Signal

/-- The signal that a cancelled or timed-out renderer receives. -/
def kill : Signal := ⟨9⟩

/-- The name of a signal. -/
def name (signal : Signal) : String :=
  match signal.number with
  | 1 => "hangup"
  | 2 => "interrupt"
  | 3 => "quit"
  | 4 => "illegal instruction"
  | 5 => "trace/breakpoint trap"
  | 6 => "aborted"
  | 7 => "bus error"
  | 8 => "floating point exception"
  | 9 => "killed"
  | 10 => "user defined signal 1"
  | 11 => "segmentation fault"
  | 12 => "user defined signal 2"
  | 13 => "broken pipe"
  | 14 => "alarm clock"
  | 15 => "terminated"
  | n => "signal " ++ toString n

end Signal

/-- Why a renderer did not finish its tile. The environment is refused for a NUL in it. -/
inductive Failure where
  | notFound (executable : String)
  | noCommand
  | launch (executable : String) (errno : Errno)
  | environment
  | killed (signal : Signal)
  | reported (text : String)
  deriving DecidableEq, Repr, Inhabited

namespace Failure

/-- The wording of a failure. -/
def message : Failure → String
  | notFound executable =>
    "exec: " ++ Text.quote executable ++ ": executable file not found in $PATH"
  | noCommand => "exec: no command"
  | launch executable errno => "fork/exec " ++ executable ++ ": " ++ errno.message
  | environment => "exec: environment variable contains NUL"
  | killed signal => "signal: " ++ signal.name
  | reported text => text

end Failure

/-- Why compressed data cannot be unpacked. -/
inductive PackingFault where
  | header
  | dictionary
  | checksum
  | corrupt (offset : Nat)
  | code
  deriving DecidableEq, Repr, Inhabited

namespace PackingFault

/-- The wording of a fault. -/
def message : PackingFault → String
  | header => "zlib: invalid header"
  | dictionary => "zlib: invalid dictionary"
  | checksum => "zlib: invalid checksum"
  | corrupt offset => "flate: corrupt input before offset " ++ toString offset
  | code => "lzw: invalid code"

end PackingFault

/-- Why a picture file cannot be read: what it holds is none, ends between two parts or inside one, is
not as its encoding demands, or has features that are not read. -/
inductive DecodeFault where
  | unknownFormat
  | ended
  | truncated
  | malformed (encoding : Encoding) (complaint : String)
  | unsupported (encoding : Encoding) (feature : String)
  | packing (fault : PackingFault)
  deriving DecidableEq, Repr, Inhabited

namespace DecodeFault

/-- The wording of a fault. -/
def message : DecodeFault → String
  | unknownFormat => "image: unknown format"
  | ended => "EOF"
  | truncated => "unexpected EOF"
  | malformed .png complaint => "png: invalid format: " ++ complaint
  | malformed .jpeg complaint => "invalid JPEG format: " ++ complaint
  | malformed .bmp _ => "bmp: invalid format"
  | malformed .tiff complaint => "tiff: invalid format: " ++ complaint
  | unsupported .png feature => "png: unsupported feature: " ++ feature
  | unsupported .jpeg feature => "unsupported JPEG feature: " ++ feature
  | unsupported .bmp _ => "bmp: unsupported BMP image"
  | unsupported .tiff feature => "tiff: unsupported feature: " ++ feature
  | packing fault => fault.message

end DecodeFault

/-- Why a text is no duration. -/
inductive DurationFault where
  | malformed (text : String)
  | missingUnit (text : String)
  | unknownUnit (unit text : String)
  deriving DecidableEq, Repr, Inhabited

/-- Why a tile's artifact was not written: a refused file operation, or what a writer reports. -/
inductive WriteFault where
  | file (cause : FileError)
  | reported (text : String)
  deriving DecidableEq, Repr, Inhabited

namespace WriteFault

/-- The wording of a fault. -/
def message : WriteFault → String
  | file cause => cause.message
  | reported text => text

end WriteFault

/-- Every error of the program. `inJob` and `savingCanvas` say where another error arose; the other
constructors are causes. At `divideByZero` the program stops where it stands. -/
inductive Error where
  | sceneRequired
  | outputRequired
  | imageSize (width height : Int64)
  | workerCount (workers : Int64)
  | duplicateJob (name : String)
  | tileArguments
  | formatCode (code : Bytes)
  | outputImage (path : String)
  | extension (extension : String)
  | notConfigured
  | alreadyStarted
  | scratch (cause : FileError)
  | artifact (tile : Int64) (path : String) (cause : WriteFault)
  | tileImage (cause : Error)
  | cancelled
  | file (cause : FileError)
  | decode (path : String) (fault : DecodeFault)
  | pictureSize (width height : Nat)
  | largePicture
  | palette
  | timeout (fault : DurationFault)
  | document
  | noSuchJob (name config : String)
  | noJobs (config : String)
  | noTerminal
  | divideByZero
  | reported (text : String)
  | inJob (name : String) (cause : Error)
  | savingCanvas (path : String) (cause : Error)
  deriving DecidableEq, Repr, Inhabited

namespace Error

/-- The error without the places it passed through. -/
def root : Error → Error
  | inJob _ cause => cause.root
  | savingCanvas _ cause => cause.root
  | cause => cause

/-- What every complaint about a job begins with. -/
def invalidJob (complaint : String) : String := "tilerender: invalid render job: " ++ complaint

/-- What every complaint about a picture format begins with. -/
def unsupported (complaint : String) : String := "tilerender: unsupported image format: " ++ complaint

/-- A text in quotes as durations quote it: quote and backslash get a backslash, and every byte that
is a control character or outside ASCII is written as two hexadecimal digits. -/
def durationQuote (text : String) : String :=
  "\"" ++ String.join ((Bytes.ofString text).map fun byte =>
    if byte == 34 then "\\\"" else if byte == 92 then "\\\\"
    else if byte < 32 || 128 ≤ byte then "\\x" ++ Text.hex 2 byte.toNat
    else (Char.ofNat byte.toNat).toString) ++ "\""

/-- The wording of a faulty duration. -/
def durationMessage : DurationFault → String
  | .malformed text => "time: invalid duration " ++ durationQuote text
  | .missingUnit text => "time: missing unit in duration " ++ durationQuote text
  | .unknownUnit unit text =>
    "time: unknown unit " ++ durationQuote unit ++ " in duration " ++ durationQuote text

/-- The wording of an error. A malformed configuration document has none of its own. -/
def message : Error → String
  | sceneRequired => invalidJob "scene file is required"
  | outputRequired => invalidJob "output file is required"
  | imageSize width height =>
    invalidJob ("image size must be at least 1x1, got " ++ Text.decimal width ++ "x" ++
      Text.decimal height)
  | workerCount workers =>
    invalidJob ("worker count must be at least 1, got " ++ Text.decimal workers)
  | duplicateJob name => invalidJob ("duplicate job " ++ Text.quote name)
  | tileArguments => invalidJob "width, height and workers must be at least 1"
  | formatCode code => unsupported ("format code " ++ Text.quoteBytes code)
  | outputImage path => unsupported ("output image " ++ Text.quote path)
  | extension ext => unsupported (Text.quote ext)
  | notConfigured => "tilerender: no render job configured"
  | alreadyStarted => "tilerender: render job already started"
  | scratch cause => "tilerender: failed to write renderer configuration: " ++ cause.message
  | artifact tile path cause =>
    "tilerender: failed to write configuration for tile " ++ Text.decimal tile ++ " (" ++ path ++
      "): " ++ cause.message
  | tileImage cause => "tilerender: tile image unavailable: " ++ cause.message
  | cancelled => "context canceled"
  | file cause => cause.message
  | decode path fault => "decode " ++ path ++ ": " ++ fault.message
  | pictureSize width height =>
    "png: invalid format: invalid image size: " ++ toString width ++ "x" ++ toString height
  | largePicture => "jpeg: image is too large to encode"
  | palette => "generate tile palette: the size of the data set must at least equal k"
  | timeout fault => "renderer timeout: " ++ durationMessage fault
  | document => ""
  | noSuchJob name config => "no job named " ++ Text.quote name ++ " in " ++ config
  | noJobs config => "no jobs configured in " ++ config
  | noTerminal => "could not open a new TTY: open /dev/tty: no such device or address"
  | divideByZero => "runtime error: integer divide by zero"
  | reported text => text
  | inJob name cause => "job " ++ Text.quote name ++ ": " ++ cause.message
  | savingCanvas path cause => "save canvas " ++ path ++ ": " ++ cause.message

end Error

end Mosaic
