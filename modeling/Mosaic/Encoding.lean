import Mosaic.Text.Letter

/-! The encodings in which pictures are written to files. -/
namespace Mosaic

/-- How a picture is written to a file. -/
inductive Encoding where
  | png
  | jpeg
  | bmp
  | tiff
  deriving DecidableEq, Repr, Inhabited

namespace Encoding

/-- The encoding that an extension selects, in either case. No extension means PNG. -/
def ofExtension? (ext : String) : Option Encoding :=
  match Text.toLowerAscii ext with
  | "" => some png
  | ".png" => some png
  | ".jpg" => some jpeg
  | ".jpeg" => some jpeg
  | ".bmp" => some bmp
  | ".tif" => some tiff
  | ".tiff" => some tiff
  | _ => none

/-- Whether pictures can be written to files with an extension. -/
def canEncode (ext : String) : Bool := (ofExtension? ext).isSome

end Encoding

end Mosaic
