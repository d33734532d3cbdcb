/-! Kinds of values, and to which kinds values can be brought. Numbers and truth values have a text; some
texts are numbers or truth values. Sequences and records have a kind for each member; lists and maps
have one kind for all. -/
namespace Mosaic.Config

/-- What is known about a value beside the value: `any` stands for nothing. The names of a record are
sorted, and each occurs once. -/
inductive Kind where
  | any
  | bool
  | number
  | text
  | sequence (items : List Kind)
  | record (names : List String) (values : List Kind)
  | list (element : Kind)
  | map (element : Kind)
  deriving Inhabited

namespace Kind

mutual

/-- Whether two kinds are the same. -/
def same : Kind → Kind → Bool
  | any, any => true
  | bool, bool => true
  | number, number => true
  | text, text => true
  | sequence a, sequence b => sameAll a b
  | record names a, record others b => names == others && sameAll a b
  | list a, list b => same a b
  | map a, map b => same a b
  | _, _ => false

/-- Whether two lists of kinds are the same. -/
def sameAll : List Kind → List Kind → Bool
  | [], [] => true
  | a :: more, b :: others => same a b && sameAll more others
  | _, _ => false

end

mutual

/-- How deep collections stand in one another. -/
def depth : Kind → Nat
  | sequence items => depths items + 1
  | record _ values => depths values + 1
  | list element => depth element + 1
  | map element => depth element + 1
  | _ => 1

/-- The greatest depth of several kinds. -/
def depths : List Kind → Nat
  | [] => 0
  | kind :: more => max (depth kind) (depths more)

end

mutual

/-- Whether something about the kind is left open. -/
def hasAny : Kind → Bool
  | any => true
  | sequence items => haveAny items
  | record _ values => haveAny values
  | list element => hasAny element
  | map element => hasAny element
  | _ => false

/-- Whether something about one of several kinds is left open. -/
def haveAny : List Kind → Bool
  | [] => false
  | kind :: more => hasAny kind || haveAny more

end

mutual

/-- Whether a kind is as another one demands; an open demand is met by everything. -/
def conforms : Kind → Kind → Bool
  | _, any => true
  | sequence a, sequence b => conformAll a b
  | record names a, record others b => names == others && conformAll a b
  | list a, list b => conforms a b
  | map a, map b => conforms a b
  | a, b => same a b

/-- Whether kinds are as others demand, position by position. -/
def conformAll : List Kind → List Kind → Bool
  | [], [] => true
  | a :: more, b :: others => conforms a b && conformAll more others
  | _, _ => false

end

/-- Whether nothing is known about the kind. -/
def isAny : Kind → Bool
  | any => true
  | _ => false

/-- Whether values of the kind have members. -/
def isCollection : Kind → Bool
  | sequence _ => true
  | record .. => true
  | list _ => true
  | map _ => true
  | _ => false

/-- Whether the kind is that of sequences. -/
def isSequence : Kind → Bool
  | sequence _ => true
  | _ => false

/-- Whether the kind is that of records. -/
def isRecord : Kind → Bool
  | record .. => true
  | _ => false

/-- Whether the kind is that of lists. -/
def isList : Kind → Bool
  | list _ => true
  | _ => false

/-- Whether the kind is that of maps. -/
def isMap : Kind → Bool
  | map _ => true
  | _ => false

/-- The kinds of the members, one for lists and maps. -/
def members : Kind → List Kind
  | sequence items => items
  | record _ values => values
  | list element => [element]
  | map element => [element]
  | _ => []

/-- The names of a record. -/
def names : Kind → List String
  | record names _ => names
  | _ => []

/-- The kinds of a number of columns, read row by row. -/
def columns : Nat → List (List Kind) → List (List Kind)
  | 0, _ => []
  | count + 1, rows => rows.filterMap List.head? :: columns count (rows.map List.tail)

/-- The kinds by preference as the one to which all are brought: texts take in numbers and truth
values, lists and maps take in sequences and records, and what is open gives way to everything. -/
def byPreference (kinds : List Kind) : List Kind :=
  let rank : Kind → Nat
    | text => 0
    | list _ => 1
    | map _ => 1
    | any => 3
    | _ => 2
  (List.range 4).flatMap fun place => kinds.filter (rank · == place)

mutual

/-- Whether values of the first kind can be brought to the second, as far as kinds tell. Texts may turn
out not to be numbers or truth values. -/
def converts : Nat → Kind → Kind → Bool
  | 0, _, _ => false
  | fuel + 1, source, target =>
    let fits (a b : Kind) : Bool := same a b || converts fuel a b
    match source, target with
    | _, any => true
    | any, _ => true
    | number, text => true
    | bool, text => true
    | text, number => true
    | text, bool => true
    | sequence a, sequence b => a.length == b.length && (a.zip b).all fun (x, y) => fits x y
    | record names a, record others b =>
      (others.zip b).all fun (name, y) => ((names.zip a).lookup name).any (fits · y)
    | list a, list b => fits a b
    | map a, map b => fits a b
    | sequence a, list b => (memberKind? fuel a b).any fun kind => a.all (fits · kind)
    | record _ a, map b => (memberKind? fuel a b).any fun kind => a.all (fits · kind)
    | map a, record _ b => b.all (fits a)
    | _, _ => false

/-- The one kind to which the members of a collection are brought if `wanted` is demanded of them; if
that is open, one that suits them all. -/
def memberKind? : Nat → List Kind → Kind → Option Kind
  | 0, _, _ => none
  | fuel + 1, members, wanted =>
    if members.isEmpty || !wanted.isAny then some wanted
    else
      match unify? fuel members with
      | some any => if members.all isAny then some any else none
      | found => found

/-- The kind to which values of all given kinds can be brought. Collections of one shape are compared
member by member; of different shapes, they need one kind for all their members. -/
def unify? : Nat → List Kind → Option Kind
  | 0, _ => none
  | fuel + 1, kinds =>
    let count (p : Kind → Bool) : Nat := kinds.countP p
    let unsettled := count isAny
    let among (n : Nat) : Bool := n != 0 && n + unsettled == kinds.length
    if among (count isMap) then uniform? fuel map kinds
    else if among (count isList) then uniform? fuel list kinds
    else if among (count isRecord) then
      if unsettled != 0 then some any else records? fuel kinds
    else if among (count isSequence) then
      if unsettled != 0 then some any else sequences? fuel kinds
    else
      let mixed :=
        if count isMap != 0 && count isMap + count isRecord == kinds.length then
          absorb? fuel map isRecord kinds
        else if count isList != 0 && count isList + count isSequence == kinds.length then
          absorb? fuel list isSequence kinds
        else none
      match mixed with
      | some kind => some kind
      | none =>
        if count isRecord != 0 && count isSequence != 0 then none
        else preferred? fuel kinds (byPreference kinds)

/-- One kind of lists, or of maps, for several. -/
def uniform? : Nat → (Kind → Kind) → List Kind → Option Kind
  | 0, _, _ => none
  | fuel + 1, collection, kinds =>
    if kinds.any isAny then some any
    else do
      let kind := collection (← unify? fuel (kinds.flatMap members))
      if kinds.all fun source => same source kind || converts fuel source kind then some kind else none

/-- One kind of lists for sequences, or of maps for records: all their members together. -/
def pooled? : Nat → (Kind → Kind) → List Kind → Option Kind
  | 0, _, _ => none
  | fuel + 1, collection, kinds => do
    let kind := collection (← unify? fuel (kinds.flatMap members))
    if kinds.all (converts fuel · kind) then some kind else none

/-- One kind for lists and sequences, or for maps and records: the latter pooled first. -/
def absorb? : Nat → (Kind → Kind) → (Kind → Bool) → List Kind → Option Kind
  | 0, _, _, _ => none
  | fuel + 1, collection, isLoose, kinds => do
    let pool ← pooled? fuel collection (kinds.filter isLoose)
    uniform? fuel collection (kinds.map fun kind => if isLoose kind then pool else kind)

/-- One kind for records: field by field where all have the same names, otherwise a map. -/
def records? : Nat → List Kind → Option Kind
  | 0, _ => none
  | fuel + 1, kinds =>
    match kinds with
    | [] => none
    | first :: _ =>
      if kinds.all (·.names == first.names) then do
        let fields ← (columns first.members.length (kinds.map members)).mapM (unify? fuel)
        let kind := record first.names fields
        if kinds.all fun source => same source kind || converts fuel source kind then some kind
        else pooled? fuel map kinds
      else pooled? fuel map kinds

/-- One kind for sequences: item by item where all have the same length, otherwise a list. -/
def sequences? : Nat → List Kind → Option Kind
  | 0, _ => none
  | fuel + 1, kinds =>
    match kinds with
    | [] => none
    | first :: _ =>
      if kinds.all (·.members.length == first.members.length) then do
        let items ← (columns first.members.length (kinds.map members)).mapM (unify? fuel)
        let kind := sequence items
        if kinds.all fun source => same source kind || converts fuel source kind then some kind
        else pooled? fuel list kinds
      else pooled? fuel list kinds

/-- The first candidate to which all kinds can be brought. -/
def preferred? : Nat → List Kind → List Kind → Option Kind
  | 0, _, _ => none
  | fuel + 1, kinds, candidates =>
    candidates.find? fun kind => kinds.all fun source => same source kind || converts fuel source kind

end

/-- The fuel for questions about kinds: every step into a collection passes a few rules. -/
def fuelFor (kinds : List Kind) : Nat := 8 * depths kinds + 8

/-- Whether values of the first kind can be brought to the second, as far as kinds tell. -/
def canConvert (source target : Kind) : Bool :=
  same source target || converts (fuelFor [source, target]) source target

/-- The kind to which values of both kinds can be brought. -/
def common? (a b : Kind) : Option Kind := unify? (fuelFor [a, b]) [a, b]

end Kind

end Mosaic.Config
