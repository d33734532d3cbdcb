import Mosaic.Error
import Mosaic.Text.Letter

/-! Picture formats: the one-letter codes by which renderers are told what to write. -/
namespace Mosaic

namespace Format

/-- The code used where a job names none. -/
def standard : String := "N"

/-- The extension that renderers give their pictures, by format code in either case. -/
def extension? (code : String) : Option String :=
  match Text.toUpper code with
  | "N" => some ".png"
  | "B" => some ".bmp"
  | "J" => some ".jpg"
  | _ => none

/-- The extension for a code given as bytes. -/
def extension (code : Bytes) : Except Error String :=
  match (Text.decode? code).bind extension? with
  | some ext => .ok ext
  | none => .error (.formatCode code)

end Format

end Mosaic
