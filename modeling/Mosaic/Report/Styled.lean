import Mosaic.Report.Column

/-! Texts as they appear on a plain terminal: tabs become blanks, and a text of several lines is filled
up to a rectangle. -/
namespace Mosaic.Report

/-- The lines of a text, line feeds taken away. -/
def splitLines : List Char → List (List Char)
  | [] => [[]]
  | '\n' :: rest => [] :: splitLines rest
  | c :: rest =>
    match splitLines rest with
    | [] => [[c]]
    | line :: more => (c :: line) :: more

/-- Writes each tab as four blanks. -/
def expandTabs : List Char → List Char
  | [] => []
  | '\t' :: rest => ' ' :: ' ' :: ' ' :: ' ' :: expandTabs rest
  | c :: rest => c :: expandTabs rest

/-- Writes a line feed for each carriage return with a line feed after it. -/
def plainBreaks : List Char → List Char
  | [] => []
  | '\r' :: '\n' :: rest => '\n' :: plainBreaks rest
  | c :: rest => c :: plainBreaks rest

/-- Fills lines up with blanks to the width of the widest. -/
def fillUp (lines : List (List Char)) : List (List Char) :=
  let width := (lines.map columns).foldl max 0
  lines.map fun line => line ++ List.replicate (width - columns line) ' '

/-- A text as it appears on a plain terminal. -/
def styled (text : String) : String :=
  let lines := splitLines (plainBreaks (expandTabs text.toList))
  "\n".intercalate ((if lines.length ≤ 1 then lines else fillUp lines).map String.ofList)

end Mosaic.Report
