/-! Whole numbers in fixed-width fields, as they stand in status lines and clocks. -/
namespace Mosaic.Text

/-- The decimal digits of a number, with a minus sign in front where it is negative. -/
def decimal (n : Int64) : String := toString n.toInt

/-- At least `width` characters, filled with blanks on the left. -/
def alignRight (width : Nat) (text : String) : String :=
  String.ofList (List.replicate (width - text.length) ' ') ++ text

/-- At least `width` characters, filled with blanks on the right. -/
def alignLeft (width : Nat) (text : String) : String :=
  text ++ String.ofList (List.replicate (width - text.length) ' ')

/-- At least two characters, filled with zeros between the sign and the digits. -/
def twoDigits (n : Int64) : String :=
  let digits := toString n.toInt.natAbs
  if n < 0 then "-" ++ digits
  else String.ofList (List.replicate (2 - digits.length) '0') ++ digits

end Mosaic.Text
