import Mosaic.Config.Expr
import Mosaic.Text.Blank
import Mosaic.Text.Cluster

/-! Templates: texts with interpolated values and with directives that select or repeat parts. -/
namespace Mosaic.Config

namespace Piece

/-- A text without the blanks at its front. -/
def trimLeft (text : String) : String := String.ofList (text.toList.dropWhile Text.isBlank)

/-- A text without the blanks at its end. -/
def trimRight (text : String) : String :=
  String.ofList (text.toList.reverse.dropWhile Text.isBlank).reverse

/-- Drops the blanks at the end of the last piece, if that is a literal. The pieces are in reverse
order. -/
def trimLast : List Piece → List Piece
  | literal text :: before => literal (trimRight text) :: before
  | before => before

/-- Whether a text ends in a line break. -/
def endsLine (text : String) : Bool := text.toList.getLast? == some '\n'

/-- The indentation of a piece at the start of a line; none for a blank line. A sequence has none of
its own and counts as zero. -/
def indentation? : Piece → Option Nat
  | literal text =>
    let blanks := text.toList.takeWhile Text.isBlank
    if blanks.length = text.length && endsLine text then none else some blanks.length
  | _ => some 0

/-- The pieces with a mark on those that stand at the start of a line. -/
def markLineStarts (lineStart : Bool) : List Piece → List (Bool × Piece)
  | [] => []
  | piece :: more =>
    let ends := match piece with
      | literal text => endsLine text
      | _ => false
    (lineStart, piece) :: markLineStarts ends more

/-- A text without a number of its first clusters. -/
def dropClusters : Nat → List Char → List Char
  | 0, text => text
  | count + 1, text => dropClusters count (Text.firstCluster text).2

/-- Removes the least indentation of all lines from every line that is not blank. A mark that follows the
indentation belongs to its last blank. -/
def flush (pieces : List Piece) : List Piece :=
  let marked := markLineStarts true pieces
  let depths := marked.filterMap fun (starts, piece) => if starts then piece.indentation? else none
  let least := depths.min?.getD 0
  marked.map fun (starts, piece) =>
    match starts, piece with
    | true, literal text =>
      if (indentation? (literal text)).isSome then
        literal (String.ofList (dropClusters least text.toList))
      else literal text
    | _, piece => piece

/-- Reads pieces up to the end of the enclosing directive: the expressions they make, the piece that
ended them if there was one, and what follows. -/
def assemble : Nat → List Piece → Option (List Expr × Option Piece × List Piece)
  | 0, _ => none
  | _, [] => some ([], none, [])
  | fuel + 1, piece :: more =>
    match piece with
    | literal text => do
      let (parts, stop, rest) ← assemble fuel more
      return (.text text :: parts, stop, rest)
    | interpolation inner => do
      let (parts, stop, rest) ← assemble fuel more
      return (inner :: parts, stop, rest)
    | whenever condition => do
      let (yes, stop, rest) ← assemble fuel more
      match stop with
      | some endWhenever =>
        let (parts, stop, rest) ← assemble fuel rest
        return (.conditional condition (.template yes) (.template []) :: parts, stop, rest)
      | some otherwise =>
        let (no, stop, rest) ← assemble fuel rest
        match stop with
        | some endWhenever =>
          let (parts, stop, rest) ← assemble fuel rest
          return (.conditional condition (.template yes) (.template no) :: parts, stop, rest)
        | _ => none
      | _ => none
    | each key element collection => do
      let (body, stop, rest) ← assemble fuel more
      match stop with
      | some endEach =>
        let (parts, stop, rest) ← assemble fuel rest
        let pieces := Expr.eachTuple key element collection (.template body) (.ref "true")
        return (.joined pieces :: parts, stop, rest)
      | _ => none
    | stop => some ([], some stop, more)

/-- The expression of a whole template. A template that is one interpolation and nothing else is the
interpolated value itself, not its text. -/
def toExpr? (pieces : List Piece) : Option Expr :=
  match pieces with
  | [interpolation inner] => some (.group inner)
  | _ =>
    match assemble (pieces.length + 1) pieces with
    | some (parts, none, _) => some (.template parts)
    | _ => none

end Piece

end Mosaic.Config
