import Mosaic.Text.Decimal

/-! The hour, minute and second counts that renderers report. They are kept as printed: nothing
carries from one unit to the next. -/
namespace Mosaic

/-- An hour/minute/second triple. -/
structure Clock where
  hour : Int64 := 0
  min : Int64 := 0
  sec : Int64 := 0
  deriving DecidableEq, Repr, Inhabited

namespace Clock

/-- `(HH:MM:SS)`, each unit with at least two characters. -/
def text (clock : Clock) : String :=
  "(" ++ Text.twoDigits clock.hour ++ ":" ++ Text.twoDigits clock.min ++ ":" ++
    Text.twoDigits clock.sec ++ ")"

/-- The greater of each unit, so the result need not be one of the two clocks. -/
def sup (a b : Clock) : Clock :=
  { hour := max a.hour b.hour, min := max a.min b.min, sec := max a.sec b.sec }

/-- The greatest of each unit over all clocks, starting from zero. -/
def supremum (clocks : List Clock) : Clock :=
  clocks.foldl sup {}

end Clock

end Mosaic
