import Mosaic.Config.Expr

/-! The values of expressions. A failed evaluation still has a value, though mostly one that is not
known: the branch of a conditional that is not taken may fail without harm as long as its kind fits the
other branch. -/
namespace Mosaic.Config

/-- What an expression may refer to: environment variables, the names bound by comprehensions
(innermost first), and the element that a splat is at. -/
structure Scope where
  environment : String → String
  bound : List (String × Value) := []
  item : Value := .mystery

namespace Scope

/-- Binds the key, if it has a name, and the element of a comprehension. -/
def bind (scope : Scope) (keyName elementName : String) (key element : Value) : Scope :=
  let keyed := if keyName.isEmpty then scope.bound else (keyName, key) :: scope.bound
  { scope with bound := (elementName, element) :: keyed }

end Scope

/-- What comes of an evaluation: a value, and whether something went wrong on the way to it. -/
structure Outcome where
  value : Value
  failed : Bool := false
  deriving Inhabited

namespace Outcome

/-- A failure with nothing known but the kind. -/
def failure (kind : Kind) : Outcome := { value := .unknown kind, failed := true }

/-- The same value, failed if something before it was. -/
def after (before : Bool) (outcome : Outcome) : Outcome :=
  { outcome with failed := before || outcome.failed }

/-- Whether one of several outcomes failed. -/
def anyFailed (outcomes : List Outcome) : Bool := outcomes.any (·.failed)

/-- The value of an outcome that did not fail. -/
def value? (outcome : Outcome) : Option Value := if outcome.failed then none else some outcome.value

end Outcome

/-- The outcome of an operation on values of a kind. Absent operands are refused; as long as one is not
known, neither is the result. -/
def operate (operandKind resultKind : Kind) (operands : List Outcome)
    (result? : List Value → Option Value) : Outcome :=
  match operands.mapM fun operand => operand.value.convert? operandKind with
  | none => .failure resultKind
  | some values =>
    if Outcome.anyFailed operands || values.any Value.isNull then .failure resultKind
    else if !values.all Value.isKnown then { value := .unknown resultKind }
    else
      match result? values with
      | some value => { value }
      | none => .failure resultKind

namespace UnaryOp

/-- The kind of operands and results. -/
def kind : UnaryOp → Kind
  | negate => .number
  | not => .bool

/-- Applies an operator to a value of its kind. -/
def result? : UnaryOp → List Value → Option Value
  | negate, [.number n] => some (.number n.neg)
  | not, [.bool b] => some (.bool (!b))
  | _, _ => none

/-- Applies an operator. -/
def apply (op : UnaryOp) (operand : Outcome) : Outcome :=
  operate op.kind op.kind [operand] op.result?

end UnaryOp

namespace BinaryOp

/-- The kind of operands; equality takes all. -/
def operandKind : BinaryOp → Kind
  | or | and => .bool
  | equal | notEqual => .any
  | _ => .number

/-- The kind of results. -/
def resultKind : BinaryOp → Kind
  | add | sub | mul | div | mod => .number
  | _ => .bool

/-- Applies an operator other than equality to known values of its kind. -/
def result? : BinaryOp → List Value → Option Value
  | or, [.bool a, .bool b] => some (.bool (a || b))
  | and, [.bool a, .bool b] => some (.bool (a && b))
  | greater, [.number a, .number b] => some (.bool (b.lt a))
  | greaterEqual, [.number a, .number b] => some (.bool (!a.lt b))
  | less, [.number a, .number b] => some (.bool (a.lt b))
  | lessEqual, [.number a, .number b] => some (.bool (!b.lt a))
  | add, [.number a, .number b] => (a.add? b).map .number
  | sub, [.number a, .number b] => (a.sub? b).map .number
  | mul, [.number a, .number b] => (a.mul? b).map .number
  | div, [.number a, .number b] => (a.div? b).map .number
  | mod, [.number a, .number b] => (a.mod? b).map .number
  | _, _ => none

/-- Whether two values are equal, or differ if that is asked. -/
def compare (left right : Outcome) (differ : Bool) : Outcome :=
  if left.failed || right.failed then .failure .bool
  else
    match left.value.equals right.value with
    | some same => { value := .bool (same != differ) }
    | none => { value := .unknown .bool }

/-- Applies an operator. Both operands have been evaluated. -/
def apply (op : BinaryOp) (left right : Outcome) : Outcome :=
  match op with
  | equal => compare left right false
  | notEqual => compare left right true
  | _ => operate op.operandKind op.resultKind [left, right] op.result?

end BinaryOp

namespace Value

/-- The field of a record or a map. -/
def field (name : String) (value : Value) : Outcome :=
  let found (names : List String) (values : List Value) : Outcome :=
    match (names.zip values).lookup (Text.normalize name) with
    | some value => { value }
    | none => .failure .any
  match value with
  | null _ => .failure .any
  | unknown .any => { value := mystery }
  | unknown (.record names kinds) => found names (kinds.map unknown)
  | unknown (.map kind) => { value := unknown kind }
  | record names values => found names values
  | map _ names values => found names values
  | _ => .failure .any

/-- The element at a position. -/
def element (items : List Value) (otherwise : Kind) (key : Value) : Outcome :=
  match key.convert? .number with
  | some (unknown _) => { value := unknown otherwise }
  | some (number n) =>
    match n.toInt64? with
    | some position =>
      if position < 0 then .failure .any
      else
        match items[position.toInt.toNat]? with
        | some value => { value }
        | none => .failure .any
    | none => .failure .any
  | _ => .failure .any

/-- The element of a collection at a key. -/
def elementAt (collection key : Value) : Outcome :=
  if collection.isNull || key.isNull then .failure .any
  else if collection.kind.isAny || key.kind.isAny then { value := mystery }
  else
    match collection with
    | sequence items => element items .any key
    | unknown (.sequence kinds) => element (kinds.map unknown) .any key
    | list kind items => element items kind key
    | unknown (.list kind) =>
      if (key.convert? .number).isSome then { value := unknown kind } else .failure .any
    | map kind _ _ =>
      match key.convert? .text with
      | some (text name) => collection.field name
      | some _ => { value := unknown kind }
      | none => .failure .any
    | unknown (.map kind) =>
      if (key.convert? .text).isSome then { value := unknown kind } else .failure .any
    | record .. =>
      match key.convert? .text with
      | some (text name) => collection.field name
      | some _ => { value := mystery }
      | none => .failure .any
    | unknown (.record ..) =>
      if (key.convert? .text).isSome then { value := mystery } else .failure .any
    | _ => .failure .any

end Value

namespace Expr

/-- The value of a bare name. -/
def ofName (scope : Scope) (name : String) : Outcome :=
  match name with
  | "true" => { value := .bool true }
  | "false" => { value := .bool false }
  | "null" => { value := .null .any }
  | _ =>
    match scope.bound.lookup name with
    | some value => { value }
    | none => .failure .any

/-- The text of the parts of a template. What follows a part that is not known or went wrong counts no
more, but may fail itself. -/
def joinParts (parts : List Outcome) : Outcome :=
  let texts := parts.map fun part => part.value.convert? .text
  let failed := Outcome.anyFailed parts || parts.any (·.value.isNull) || texts.any Option.isNone
  if !parts.all (·.value.isKnown) then { value := .unknown .text, failed }
  else
    let written := texts.map fun
      | some (.text written) => written
      | _ => ""
    { value := .ofText (String.join written), failed }

/-- The texts of a sequence, one after another. -/
def joinItems (pieces : Outcome) : Outcome :=
  match pieces.value with
  | .sequence items => (joinParts (items.map fun value => { value })).after pieces.failed
  | _ => { value := .unknown .text, failed := pieces.failed }

/-- The outcome of a call of the one function there is, `env`, which gives the value of an environment
variable, empty if it is not set. -/
def environmentValue (scope : Scope) (argument : Outcome) : Outcome :=
  match argument.value.convert? .text with
  | none => .failure .any
  | some name =>
    if argument.failed then .failure .any
    else
      match name with
      | .text name => { value := .ofText (scope.environment name) }
      | .unknown _ => { value := .unknown .text }
      | _ => .failure .any

/-- The arguments of a call with the elements of the last one in its place. The result is missing where
it cannot be expanded, and then comes with what is known of the call. -/
def expandLast (arguments : List Outcome) : Except Outcome (List Outcome) :=
  match arguments.reverse with
  | [] => .error (.failure .any)
  | last :: before =>
    if last.failed then .error (.failure .any)
    else
      match last.value with
      | .sequence items => .ok (before.reverse ++ items.map fun value => { value })
      | .list _ items => .ok (before.reverse ++ items.map fun value => { value })
      | .unknown .any => .error { value := .mystery }
      | .unknown (.sequence _) => .error { value := .mystery }
      | .unknown (.list _) => .error { value := .mystery }
      | _ => .error (.failure .any)

/-- The outcome of a call. -/
def callResult (scope : Scope) (function : String) (arguments : List Outcome) (expand : Bool) : Outcome :=
  if function != "env" then .failure .any
  else
    match if expand then expandLast arguments else .ok arguments with
    | .error outcome => outcome
    | .ok [argument] => environmentValue scope argument
    | .ok _ => .failure .any

/-- Whether an element of a comprehension is taken: the condition as a truth value, and whether
something went wrong. The truth value is missing where it is not known. -/
def taken (condition : Outcome) : Option Bool × Bool :=
  if condition.value.isNull then (none, true)
  else
    match condition.value.convert? .bool with
    | none => (none, true)
    | some (.bool holds) => (some holds, condition.failed)
    | some _ => (none, condition.failed)

/-- Whether a condition can be decided at all: asked once before the elements, with nothing known of
them. -/
def isDecidable (condition : Outcome) : Bool :=
  !condition.failed && !condition.value.isNull && (condition.value.convert? .bool).isSome

/-- The sequence of the elements that are taken. -/
def selected (results : List (Outcome × Outcome)) : Outcome :=
  let decisions := results.map fun (condition, _) => taken condition
  let bodies := (results.zip decisions).filterMap fun ((_, body), (holds, _)) =>
    if holds = some true then some body else none
  let failed := decisions.any (·.2) || Outcome.anyFailed bodies
  if decisions.any (·.1.isNone) then { value := .mystery, failed }
  else { value := .sequence (bodies.map (·.value)), failed }

/-- Whether no name occurs twice. -/
def allDistinct : List String → Bool
  | [] => true
  | name :: more => !more.contains name && allDistinct more

/-- The fields that are taken: the name, missing where it is not known, and the value of each, with
whether something went wrong. -/
def selectedFields : List (Outcome × Outcome × Outcome) → List (Option String × Outcome)
  | [] => []
  | (condition, key, body) :: more =>
    match taken condition with
    | (none, failed) => (none, { value := .mystery, failed }) :: selectedFields more
    | (some false, failed) =>
      if failed then (none, .failure .any) :: selectedFields more else selectedFields more
    | (some true, failed) =>
      let name := if key.value.isNull then none else key.value.convert? .text
      match name with
      | some (.text name) => (some name, body.after (failed || key.failed)) :: selectedFields more
      | some _ => (none, { value := .mystery, failed := failed || key.failed }) :: selectedFields more
      | none => (none, .failure .any) :: selectedFields more

/-- The record of selected fields: names occur once, or fields of one name are gathered in order. -/
def fieldsRecord (grouped : Bool) (fields : List (Option String × Outcome)) : Outcome :=
  let failed := fields.any (·.2.failed)
  match fields.mapM (·.1) with
  | none => { value := .mystery, failed }
  | some names =>
    let pairs := names.zip (fields.map (·.2.value))
    if grouped then
      { value := .ofFields (names.map fun name =>
          (name, .sequence ((pairs.filter (·.1 == name)).map (·.2)))), failed }
    else { value := .ofFields pairs.reverse, failed := failed || !allDistinct names }

/-- The choice of a conditional. Both branches have been evaluated; the one not taken counts only by
its kind, and its failure does not count. -/
def choose (condition yes no : Outcome) : Outcome :=
  let isLiteralNull (branch : Outcome) : Bool := branch.value.isNull && branch.value.kind.isAny
  let common :=
    if isLiteralNull yes then some no.value.kind
    else if isLiteralNull no then some yes.value.kind
    else yes.value.kind.common? no.value.kind
  match common with
  | none => .failure .any
  | some kind =>
    match condition.value.convert? .bool with
    | none => .failure kind
    | some (.null _) => .failure kind
    | some (.bool holds) =>
      let branch := if holds then yes else no
      let other := if holds then no else yes
      let isVague := !isLiteralNull other &&
        ((branch.value.kind.isAny && other.value.kind.isCollection) ||
          (branch.value.kind.isCollection && other.value.kind.isAny))
      let converted := if isVague then some .mystery else branch.value.convert? kind
      match converted with
      | some value => { value, failed := condition.failed || branch.failed }
      | none => .failure kind
    | some _ => { value := .unknown kind, failed := condition.failed }

/-- The outcome of a splat whose items have been evaluated. Where one went wrong, only the kinds that the
results have for items of which nothing but their kind is known are left. -/
def splatResult (isList : Bool) (results expected : List Outcome) : Outcome :=
  if Outcome.anyFailed results then
    let kinds := expected.map (·.value.kind)
    { value := .unknown (if isList then .list (kinds.headD .any) else .sequence kinds), failed := true }
  else if isList then
    if results.isEmpty then
      { value := .list ((expected.map (·.value.kind)).headD .any) []
        failed := Outcome.anyFailed expected }
    else { value := .ofItems (results.map (·.value)) }
  else { value := .sequence (results.map (·.value)) }

mutual

/-- The value of an expression. -/
def eval : Expr → Scope → Outcome
  | number value, _ => { value := .number value }
  | text value, _ => { value := .ofText value }
  | ref name, scope => ofName scope name
  | ambiguous, _ => .failure .any
  | current, scope => { value := scope.item }
  | group inner, scope => eval inner scope
  | template parts, scope => joinParts (evalAll parts scope)
  | joined pieces, scope => joinItems (eval pieces scope)
  | call function arguments expand, scope =>
    callResult scope function (evalAll arguments scope) expand
  | access source name, scope =>
    let source := eval source scope
    (source.value.field name).after source.failed
  | index source key, scope =>
    let source := eval source scope
    let key := eval key scope
    (source.value.elementAt key.value).after (source.failed || key.failed)
  | splat source each, scope =>
    let source := eval source scope
    let eachOf (value : Value) : Outcome := eval each { scope with item := value }
    if source.failed then .failure .any
    else
      match source.value with
      | .sequence items =>
        splatResult false (items.map eachOf) ((Value.kinds items).map fun kind => eachOf (.unknown kind))
      | .list kind items => splatResult true (items.map eachOf) [eachOf (.unknown kind)]
      | .unknown (.sequence kinds) =>
        let expected := kinds.map fun kind => eachOf (.unknown kind)
        { value := .unknown (.sequence (expected.map (·.value.kind))), failed := Outcome.anyFailed expected }
      | .unknown (.list kind) =>
        let expected := eachOf (.unknown kind)
        { value := .unknown (.list expected.value.kind), failed := expected.failed }
      | .null (.sequence _) => .failure .any
      | .null (.list _) => .failure .any
      | .null _ => { value := .sequence [] }
      | .unknown .any => { value := .mystery }
      | .unknown kind => { value := .mystery, failed := (eachOf (.unknown kind)).failed }
      | value => splatResult false [eachOf value] [eachOf (.unknown value.kind)]
  | tuple items, scope =>
    let outcomes := evalAll items scope
    { value := .sequence (outcomes.map (·.value)), failed := Outcome.anyFailed outcomes }
  | record keys values, scope =>
    let outcomes := evalAll values scope
    let keys := evalAll keys scope
    let names := keys.map fun key =>
      if key.failed || key.value.isNull then none else key.value.convert? .text
    let failed := Outcome.anyFailed outcomes || names.any Option.isNone
    match names.mapM fun
        | some (.text name) => some name
        | _ => none with
    | some names => { value := .ofFields (names.zip (outcomes.map (·.value))), failed }
    | none => { value := .mystery, failed }
  | eachTuple key element collection body condition, scope =>
    let source := eval collection scope
    if source.value.isNull then .failure .any
    else if !source.value.isKnown then { value := .mystery, failed := source.failed }
    else
      match source.value.entries? with
      | none => .failure .any
      | some entries =>
        if !isDecidable (eval condition (scope.bind key element .mystery .mystery)) then .failure .any
        else
          let results := entries.map fun (k, v) =>
            let inner := scope.bind key element k v
            (eval condition inner, eval body inner)
          (selected results).after source.failed
  | eachRecord key element collection name body condition grouped, scope =>
    let source := eval collection scope
    if source.value.isNull then .failure .any
    else if !source.value.isKnown then { value := .mystery, failed := source.failed }
    else
      match source.value.entries? with
      | none => .failure .any
      | some entries =>
        if !isDecidable (eval condition (scope.bind key element .mystery .mystery)) then .failure .any
        else
          let results := entries.map fun (k, v) =>
            let inner := scope.bind key element k v
            (eval condition inner, eval name inner, eval body inner)
          (fieldsRecord grouped (selectedFields results)).after source.failed
  | unary op operand, scope => op.apply (eval operand scope)
  | binary op left right, scope => op.apply (eval left scope) (eval right scope)
  | conditional condition yes no, scope =>
    choose (eval condition scope) (eval yes scope) (eval no scope)

/-- The values of several expressions. -/
def evalAll : List Expr → Scope → List Outcome
  | [], _ => []
  | expr :: more, scope => eval expr scope :: evalAll more scope

end

end Expr

end Mosaic.Config
