/-! Places in a tree of names. A location knows its depth, so that two of different depth are told apart
without a look at their names. -/
namespace Mosaic

/-- The names from the root down, and their number. -/
structure Location where
  depth : Nat
  names : List String
  depth_eq : depth = names.length
  deriving DecidableEq

namespace Location

/-- The location that the given names lead to. -/
def ofNames (names : List String) : Location := ⟨names.length, names, rfl⟩

/-- The location of no name. -/
def root : Location := ofNames []

instance : Inhabited Location := ⟨root⟩

/-- Two locations with the same names are the same. -/
theorem ext_names {a b : Location} (same : a.names = b.names) : a = b := by
  cases a with
  | mk _ _ first => cases b with
    | mk _ _ second => cases same; cases first; cases second; rfl

/-- The location of a name below another. -/
def child (location : Location) (name : String) : Location :=
  ⟨location.depth + 1, location.names ++ [name], by simp [location.depth_eq]⟩

/-- The location above another; the root is above itself. -/
def parent (location : Location) : Location :=
  ⟨location.depth - 1, location.names.dropLast, by simp [location.depth_eq]⟩

/-- Whether a location is another or below it. -/
def isWithin (location top : Location) : Bool :=
  top.depth ≤ location.depth && top.names.isPrefixOf location.names

/-- Whether a location is below another. -/
def isBelow (location top : Location) : Bool :=
  top.depth < location.depth && top.names.isPrefixOf location.names

/-- The path of a location. -/
def path (location : Location) : String := "/" ++ "/".intercalate location.names

/-- The path of a location as seen from one above it. -/
def pathFrom (location top : Location) : String :=
  "/".intercalate (location.names.drop top.depth)

end Location

end Mosaic
