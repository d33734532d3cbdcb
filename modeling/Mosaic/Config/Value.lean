import Mosaic.Config.Kind
import Mosaic.Config.Number
import Mosaic.Text.Normal

/-! Values of configuration expressions. A value may be absent, or may not be known while its kind
is. -/
namespace Mosaic.Config

/-- A value. The fields of records and maps are sorted by name and each name occurs once. Texts and names
are spelled in the one way of `Text.normalize`. -/
inductive Value where
  | null (kind : Kind)
  | unknown (kind : Kind)
  | bool (value : Bool)
  | number (value : Number)
  | text (value : String)
  | sequence (items : List Value)
  | record (names : List String) (values : List Value)
  | list (element : Kind) (items : List Value)
  | map (element : Kind) (names : List String) (values : List Value)
  deriving Inhabited

namespace Value

mutual

/-- The kind of a value. -/
def kind : Value → Kind
  | null kind => kind
  | unknown kind => kind
  | bool _ => .bool
  | number _ => .number
  | text _ => .text
  | sequence items => .sequence (kinds items)
  | record names values => .record names (kinds values)
  | list element _ => .list element
  | map element _ _ => .map element

/-- The kinds of several values. -/
def kinds : List Value → List Kind
  | [] => []
  | value :: more => kind value :: kinds more

end

/-- The value of which nothing is known. -/
def mystery : Value := unknown .any

/-- A text in its one spelling. -/
def ofText (written : String) : Value := text (Text.normalize written)

/-- Whether the value is absent. -/
def isNull : Value → Bool
  | null _ => true
  | _ => false

/-- Whether the value itself is known. -/
def isKnown : Value → Bool
  | unknown _ => false
  | _ => true

mutual

/-- Whether the kind of the value can no longer change as more becomes known. -/
def isSettled : Value → Bool
  | unknown kind => !kind.hasAny
  | sequence items => areSettled items
  | record _ values => areSettled values
  | list _ items => areSettled items
  | map _ _ values => areSettled values
  | _ => true

/-- Whether several values are settled. -/
def areSettled : List Value → Bool
  | [] => true
  | value :: more => isSettled value && areSettled more

end

/-- Equality where one of two values is not known: none where it remains open. -/
def equalUnknown (known : Value) (kind : Kind) : Option Bool :=
  if known.isNull || kind.hasAny || known.kind.same kind then none else some false

/-- What kinds alone say about the equality of values that are not absent. -/
def equalKinds (a b : Value) : Option Bool :=
  if !a.isSettled || !b.isSettled then
    if a.kind.conforms b.kind || b.kind.conforms a.kind then none else some false
  else some (a.kind.same b.kind)

mutual

/-- Equality without conversion: values of different kinds differ. The answer is missing where it hangs
on a value that is not known. -/
def equals : Value → Value → Option Bool
  | unknown _, unknown _ => none
  | unknown kind, other => equalUnknown other kind
  | other, unknown kind => equalUnknown other kind
  | null _, null _ => some true
  | null _, _ => some false
  | _, null _ => some false
  | bool a, bool b => some (a == b)
  | number a, number b => some (a.same b)
  | text a, text b => some (a == b)
  | sequence a, sequence b =>
    match equalKinds (sequence a) (sequence b) with
    | some true => equalAll a b
    | decided => decided
  | record names a, record others b =>
    match equalKinds (record names a) (record others b) with
    | some true => equalAll a b
    | decided => decided
  | list kind a, list other b =>
    match equalKinds (list kind a) (list other b) with
    | some true => if a.length = b.length then equalAll a b else some false
    | decided => decided
  | map kind names a, map other others b =>
    match equalKinds (map kind names a) (map other others b) with
    | some true => if names = others then equalAll a b else some false
    | decided => decided
  | a, b => if a.isSettled && b.isSettled then some false else equalKinds a b

/-- Equality of lists of values, position by position; the first difference or open question decides. -/
def equalAll : List Value → List Value → Option Bool
  | [], [] => some true
  | a :: more, b :: others =>
    match equals a b with
    | some true => equalAll more others
    | decided => decided
  | _, _ => some false

end

/-- The truth value that a text reads as. -/
def boolOfText? : String → Option Bool
  | "true" => some true
  | "1" => some true
  | "false" => some false
  | "0" => some false
  | _ => none

/-- Brings a value to a kind. -/
def convertFrom : Nat → Value → Kind → Option Value
  | 0, _, _ => none
  | fuel + 1, value, target =>
    if value.kind.same target then some value
    else if !value.kind.canConvert target then none
    else
      match value, target with
      | _, .any => some value
      | null _, _ => some (null target)
      | unknown _, _ => some (unknown target)
      | number n, .text => some (text n.text)
      | bool b, .text => some (text (if b then "true" else "false"))
      | text written, .number => (Number.ofText? written).map number
      | text written, .bool => (boolOfText? written).map bool
      | sequence items, .sequence kinds =>
        ((items.zip kinds).mapM fun (item, kind) => convertFrom fuel item kind).map sequence
      | record names values, .record others kinds =>
        ((others.zip kinds).mapM fun (name, kind) =>
          ((names.zip values).lookup name).bind (convertFrom fuel · kind)).map (record others)
      | map _ names values, .record others kinds =>
        ((others.zip kinds).mapM fun (name, kind) =>
          ((names.zip values).lookup name).bind (convertFrom fuel · kind)).map (record others)
      | sequence items, .list wanted => do
        let kind ← Kind.memberKind? (Kind.fuelFor (kinds items)) (kinds items) wanted
        return list kind (← items.mapM (convertFrom fuel · kind))
      | record names values, .map wanted => do
        let kind ← Kind.memberKind? (Kind.fuelFor (kinds values)) (kinds values) wanted
        return map kind names (← values.mapM (convertFrom fuel · kind))
      | list _ items, .list kind => (items.mapM (convertFrom fuel · kind)).map (list kind)
      | map _ names values, .map kind => (values.mapM (convertFrom fuel · kind)).map (map kind names)
      | _, _ => none

/-- Brings a value to a kind. Absent and unknown values only change their kind. -/
def convert? (value : Value) (target : Kind) : Option Value :=
  convertFrom (value.kind.depth + target.depth + 1) value target

/-- The text that a value is or has. -/
def toText? (value : Value) : Option String :=
  match value.convert? .text with
  | some (text written) => some written
  | _ => none

/-- The number that a value is or that its text reads as. -/
def toNumber? (value : Value) : Option Number :=
  match value.convert? .number with
  | some (number n) => some n
  | _ => none

/-- The truth value that a value is or that its text reads as. -/
def toBool? (value : Value) : Option Bool :=
  match value.convert? .bool with
  | some (bool b) => some b
  | _ => none

/-- The elements of a collection with their keys: positions or names. -/
def entries? : Value → Option (List (Value × Value))
  | sequence items => some (positions items)
  | list _ items => some (positions items)
  | record names values => some ((names.map text).zip values)
  | map _ names values => some ((names.map text).zip values)
  | _ => none
where
  /-- Values with their positions. -/
  positions (items : List Value) : List (Value × Value) :=
    ((List.range items.length).map fun i => number (.ofPosition i)).zip items

/-- The list of values of one kind. Where all are open, so is the kind of the list. -/
def ofItems (items : List Value) : Value :=
  let kind := ((kinds items).find? fun kind => !kind.isAny).getD .any
  list kind (items.map fun
    | null _ => null kind
    | unknown _ => unknown kind
    | item => item)

/-- Puts a field into its place in a list of fields sorted by name. -/
def insertField (name : String) (value : Value) : List (String × Value) → List (String × Value)
  | [] => [(name, value)]
  | (other, kept) :: more =>
    if name = other then (name, value) :: more
    else if name < other then (name, value) :: (other, kept) :: more
    else (other, kept) :: insertField name value more

/-- The record of a list of fields; of two fields with one name the later counts. -/
def ofFields (fields : List (String × Value)) : Value :=
  let sorted := fields.foldl (fun sum (name, value) => insertField name value sum) []
  record (sorted.map (·.1)) (sorted.map (·.2))

end Value

end Mosaic.Config
