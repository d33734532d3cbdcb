import Mosaic.Config.Template
import Mosaic.Config.Token

/-! The grammar of configuration documents. Line breaks end statements and separate the fields of
records; inside parentheses, brackets, calls and template sequences they count as blanks. -/
namespace Mosaic.Config

/-- Reads a construct from the front of the tokens and gives what follows. -/
abbrev Parse (α : Type) := List Token → Option (α × List Token)

namespace Grammar

/-- The tokens from the next one that counts. -/
def ahead (lines : Bool) (tokens : List Token) : List Token :=
  if lines then tokens else tokens.dropWhile (· == .newline)

/-- What follows an expected token. -/
def expect? (lines : Bool) (token : Token) (tokens : List Token) : Option (List Token) :=
  match ahead lines tokens with
  | found :: rest => if found = token then some rest else none
  | [] => none

/-- Whether a token comes next. -/
def comes (lines : Bool) (token : Token) (tokens : List Token) : Bool :=
  (ahead lines tokens).head? == some token

/-- A name. -/
def name? (tokens : List Token) : Option (String × List Token) :=
  match ahead false tokens with
  | .name text :: rest => some (text, rest)
  | _ => none

/-- The operators with two operands, by precedence from the loosest to the tightest. -/
def levels : List (List (String × BinaryOp)) :=
  [[("||", .or)],
    [("&&", .and)],
    [("==", .equal), ("!=", .notEqual)],
    [(">", .greater), (">=", .greaterEqual), ("<", .less), ("<=", .lessEqual)],
    [("+", .add), ("-", .sub)],
    [("*", .mul), ("/", .div), ("%", .mod)]]

/-- `for key, element in` or `for element in`, after the first word. -/
def binder? (tokens : List Token) : Option ((String × String) × List Token) := do
  let (first, rest) ← name? tokens
  match expect? false (.symbol ",") rest with
  | some rest =>
    let (second, rest) ← name? rest
    return ((first, second), ← expect? false (.name "in") rest)
  | none => return (("", first), ← expect? false (.name "in") rest)

/-- The parts of a function's name after the first, each after a double colon. -/
def nameParts : Nat → Bool → Parse (List String)
  | 0, _, _ => none
  | fuel + 1, lines, tokens =>
    match expect? lines (.symbol "::") tokens with
    | none => some ([], tokens)
    | some rest =>
      match ahead lines rest with
      | .name text :: rest => do
        let (more, rest) ← nameParts fuel lines rest
        return (text :: more, rest)
      | _ => none

/-- Whether a key in brackets is written out: a number, a word with a meaning of its own, or a text. -/
def isWrittenOut : Expr → Bool
  | .number _ => true
  | .ref text => ["true", "false", "null"].contains text
  | .template parts => parts.all fun
    | .text _ => true
    | _ => false
  | _ => false

/-- Whether an expression is a name with accesses by written-out keys. -/
def isPath : Expr → Bool
  | .ref text => !(["true", "false", "null"].contains text)
  | .access source _ => isPath source
  | .index source key => isPath source && isWrittenOut key
  | _ => false

/-- A key of a record. A bare name stands for its own text; with accesses after it, it could be meant as a
text or as a reference. -/
def recordKey : Expr → Expr
  | .ref text => .text text
  | key => if isPath key then .ambiguous else key

mutual

/-- An expression. The flag says whether line breaks count. -/
def expression : Nat → Bool → Parse Expr
  | 0, _, _ => none
  | fuel + 1, lines, tokens => do
    let (condition, rest) ← operation fuel lines levels tokens
    match expect? lines (.symbol "?") rest with
    | none => return (condition, rest)
    | some rest =>
      let (yes, rest) ← expression fuel lines rest
      let rest ← expect? lines (.symbol ":") rest
      let (no, rest) ← expression fuel lines rest
      return (.conditional condition yes no, rest)

/-- Operands joined by the operators of the given levels. -/
def operation : Nat → Bool → List (List (String × BinaryOp)) → Parse Expr
  | 0, _, _, _ => none
  | fuel + 1, lines, [], tokens => operand fuel lines tokens
  | fuel + 1, lines, ops :: tighter, tokens => do
    let (left, rest) ← operation fuel lines tighter tokens
    operationRest fuel lines ops tighter left rest

/-- Further operands of one level; operators of one level group to the left. -/
def operationRest : Nat → Bool → List (String × BinaryOp) → List (List (String × BinaryOp)) → Expr →
    Parse Expr
  | 0, _, _, _, _, _ => none
  | fuel + 1, lines, ops, tighter, left, tokens =>
    match ahead lines tokens with
    | .symbol text :: rest =>
      match ops.lookup text with
      | some op => do
        let (right, rest) ← operation fuel lines tighter rest
        operationRest fuel lines ops tighter (.binary op left right) rest
      | none => some (left, tokens)
    | _ => some (left, tokens)

/-- A term with the accesses after it. -/
def operand : Nat → Bool → Parse Expr
  | 0, _, _ => none
  | fuel + 1, lines, tokens => do
    let (term, rest) ← term fuel lines tokens
    accesses fuel lines term rest

/-- A literal, a name, a call, a signed operand, a bracketed expression or a collection. -/
def term : Nat → Bool → Parse Expr
  | 0, _, _ => none
  | fuel + 1, lines, tokens =>
    match ahead lines tokens with
    | .symbol "(" :: rest => do
      let (inner, rest) ← expression fuel false rest
      return (.group inner, ← expect? false (.symbol ")") rest)
    | .number text :: rest => do return (.number (← Number.ofText? text), rest)
    | .name text :: rest => do
      let (more, rest) ← nameParts fuel lines rest
      match expect? lines (.symbol "(") rest with
      | some rest => arguments fuel ("::".intercalate (text :: more)) [] rest
      | none => if more.isEmpty then return (.ref text, rest) else none
    | .openQuote :: rest => do
      let (pieces, rest) ← pieces fuel .closeQuote false [] rest
      return (← Piece.toExpr? pieces, rest)
    | .openHeredoc flush :: rest => do
      let (pieces, rest) ← pieces fuel .closeHeredoc false [] rest
      return (← Piece.toExpr? (if flush then Piece.flush pieces else pieces), rest)
    | .symbol "-" :: rest => do
      let (inner, rest) ← operand fuel lines rest
      return (.unary .negate inner, rest)
    | .symbol "!" :: rest => do
      let (inner, rest) ← operand fuel lines rest
      return (.unary .not inner, rest)
    | .symbol "[" :: rest =>
      match expect? false (.name "for") rest with
      | some rest => eachIn fuel false rest
      | none => tupleItems fuel [] rest
    | .symbol "\x7b" :: rest =>
      match expect? false (.name "for") rest with
      | some rest => eachIn fuel true rest
      | none => recordFields fuel [] [] rest
    | _ => none

/-- Attribute, index and splat accesses to an expression. -/
def accesses : Nat → Bool → Expr → Parse Expr
  | 0, _, _, _ => none
  | fuel + 1, lines, source, tokens =>
    match ahead lines tokens with
    | .symbol "." :: rest =>
      match ahead lines rest with
      | .name text :: rest => accesses fuel lines (.access source text) rest
      | .number text :: rest =>
        if text.toList.contains '.' then none
        else do accesses fuel lines (.index source (.number (← Number.ofText? text))) rest
      | .symbol "*" :: rest => do
        let (each, rest) ← attributes fuel lines .current rest
        accesses fuel lines (.splat source each) rest
      | _ => none
    | .symbol "[" :: rest =>
      match expect? lines (.symbol "*") rest with
      | some rest => do
        let rest ← expect? lines (.symbol "]") rest
        let (each, rest) ← accesses fuel lines .current rest
        accesses fuel lines (.splat source each) rest
      | none => do
        let (key, rest) ← expression fuel false rest
        let rest ← expect? false (.symbol "]") rest
        accesses fuel lines (.index source key) rest
    | _ => some (source, tokens)

/-- The attribute accesses after a dotted splat. -/
def attributes : Nat → Bool → Expr → Parse Expr
  | 0, _, _, _ => none
  | fuel + 1, lines, source, tokens =>
    match expect? lines (.symbol ".") tokens with
    | none => some (source, tokens)
    | some rest =>
      match ahead lines rest with
      | .name text :: rest => attributes fuel lines (.access source text) rest
      | .number text :: rest =>
        if text.toList.contains '.' then none
        else do attributes fuel lines (.index source (.number (← Number.ofText? text))) rest
      | _ => none

/-- The arguments of a call, after its opening parenthesis. -/
def arguments : Nat → String → List Expr → Parse Expr
  | 0, _, _, _ => none
  | fuel + 1, function, before, tokens =>
    match expect? false (.symbol ")") tokens with
    | some rest => some (.call function before.reverse false, rest)
    | none => do
      let (argument, rest) ← expression fuel false tokens
      let all := argument :: before
      match ahead false rest with
      | .symbol ")" :: rest => return (.call function all.reverse false, rest)
      | .symbol "..." :: rest =>
        return (.call function all.reverse true, ← expect? false (.symbol ")") rest)
      | .symbol "," :: rest => arguments fuel function all rest
      | _ => none

/-- The items of a tuple, after its opening bracket. -/
def tupleItems : Nat → List Expr → Parse Expr
  | 0, _, _ => none
  | fuel + 1, before, tokens =>
    match expect? false (.symbol "]") tokens with
    | some rest => some (.tuple before.reverse, rest)
    | none => do
      let (first, rest) ← expression fuel false tokens
      match ahead false rest with
      | .symbol "]" :: rest => return (.tuple (first :: before).reverse, rest)
      | .symbol "," :: rest => tupleItems fuel (first :: before) rest
      | _ => none

/-- The fields of a record, after its opening brace. -/
def recordFields : Nat → List Expr → List Expr → Parse Expr
  | 0, _, _, _ => none
  | fuel + 1, keys, values, tokens =>
    match tokens with
    | .newline :: rest => recordFields fuel keys values rest
    | .symbol "\x7d" :: rest => some (.record keys.reverse values.reverse, rest)
    | _ => do
      let (key, rest) ← expression fuel true tokens
      let rest ← (expect? true (.symbol "=") rest).orElse fun _ => expect? true (.symbol ":") rest
      let (value, rest) ← expression fuel true rest
      let keys := recordKey key :: keys
      let values := value :: values
      match rest with
      | .symbol "\x7d" :: rest => return (.record keys.reverse values.reverse, rest)
      | .symbol "," :: rest => recordFields fuel keys values rest
      | .newline :: rest => recordFields fuel keys values rest
      | _ => none

/-- A comprehension, after its first word: a record if the flag says so, otherwise a tuple. -/
def eachIn : Nat → Bool → Parse Expr
  | 0, _, _ => none
  | fuel + 1, isRecord, tokens => do
    let ((key, element), rest) ← binder? tokens
    let (collection, rest) ← expression fuel false rest
    let rest ← expect? false (.symbol ":") rest
    let (first, rest) ← expression fuel false rest
    match isRecord, expect? false (.symbol "=>") rest with
    | false, none =>
      let (condition, rest) ← guard fuel rest
      let rest ← expect? false (.symbol "]") rest
      return (.eachTuple key element collection first condition, rest)
    | true, some rest =>
      let (body, rest) ← expression fuel false rest
      let grouped := comes false (.symbol "...") rest
      let rest := (expect? false (.symbol "...") rest).getD rest
      let (condition, rest) ← guard fuel rest
      let rest ← expect? false (.symbol "\x7d") rest
      return (.eachRecord key element collection first body condition grouped, rest)
    | _, _ => none

/-- The condition of a comprehension; without one every element is taken. -/
def guard : Nat → Parse Expr
  | 0, _ => none
  | fuel + 1, tokens =>
    match expect? false (.name "if") tokens with
    | some rest => expression fuel false rest
    | none => some (.ref "true", tokens)

/-- The pieces of a template up to its closing token. The flag says that blanks at the front of a
literal are dropped; the pieces before are in reverse order. -/
def pieces : Nat → Token → Bool → List Piece → Parse (List Piece)
  | 0, _, _, _, _ => none
  | fuel + 1, close, trim, before, tokens =>
    match tokens with
    | [] => none
    | .literal text :: rest =>
      let text := if trim then Piece.trimLeft text else text
      pieces fuel close false (.literal text :: before) rest
    | .openInterpolation left :: rest => do
      let before := if left then Piece.trimLast before else before
      let (inner, rest) ← expression fuel false rest
      match ahead false rest with
      | .closeSequence right :: rest => pieces fuel close right (.interpolation inner :: before) rest
      | _ => none
    | .openDirective left :: rest => do
      let before := if left then Piece.trimLast before else before
      let (piece, rest) ← directive fuel rest
      match ahead false rest with
      | .closeSequence right :: rest => pieces fuel close right (piece :: before) rest
      | _ => none
    | token :: rest => if token = close then some (before.reverse, rest) else none

/-- The inside of a template directive. -/
def directive : Nat → Parse Piece
  | 0, _ => none
  | fuel + 1, tokens => do
    let (word, rest) ← name? tokens
    match word with
    | "if" =>
      let (condition, rest) ← expression fuel false rest
      return (.whenever condition, rest)
    | "else" => return (.otherwise, rest)
    | "endif" => return (.endWhenever, rest)
    | "for" =>
      let ((key, element), rest) ← binder? rest
      let (collection, rest) ← expression fuel false rest
      return (.each key element collection, rest)
    | "endfor" => return (.endEach, rest)
    | _ => none

end

/-- A quoted label, after its opening quote. Labels hold no template sequences. -/
def label : String → Parse String
  | text, .literal more :: rest => label (text ++ more) rest
  | text, .closeQuote :: rest => some (text, rest)
  | _, _ => none

/-- The labels of a block, up to and including its opening brace. -/
def labels : Nat → Parse (List String)
  | 0, _ => none
  | fuel + 1, tokens =>
    match tokens with
    | .symbol "\x7b" :: rest => some ([], rest)
    | .name text :: rest => do
      let (more, rest) ← labels fuel rest
      return (text :: more, rest)
    | .openQuote :: rest => do
      let (text, rest) ← label "" rest
      let (more, rest) ← labels fuel rest
      return (text :: more, rest)
    | _ => none

/-- What follows the end of a line. -/
def lineEnd? : List Token → Option (List Token)
  | .newline :: rest => some rest
  | [] => some []
  | _ => none

/-- Whether a body has an argument of a name. -/
def hasArgument (name : String) (items : List Item) : Bool :=
  items.any fun
    | .argument other _ => other == name
    | .block .. => false

/-- The fuel with which an expression is read: every token is passed by a bounded number of rules. -/
def fuelFor (tokens : List Token) : Nat := 20 * tokens.length + 40

mutual

/-- The items of a body, up to its closing brace inside a block and up to the end outside. The items
before are in reverse order. No argument occurs twice. -/
def body : Nat → Bool → List Item → Parse (List Item)
  | 0, _, _, _ => none
  | fuel + 1, inBlock, before, tokens =>
    match tokens with
    | [] => if inBlock then none else some (before.reverse, [])
    | .newline :: rest => body fuel inBlock before rest
    | .symbol "\x7d" :: rest => if inBlock then some (before.reverse, rest) else none
    | .name text :: .symbol "=" :: rest => do
      let (value, rest) ← expression (fuelFor rest) true rest
      let rest ← lineEnd? rest
      if hasArgument text before then none
      else body fuel inBlock (.argument text value :: before) rest
    | .name text :: rest => do
      let (names, rest) ← labels (rest.length + 1) rest
      let (items, rest) ← blockBody fuel rest
      let rest ← lineEnd? rest
      body fuel inBlock (.block text names items :: before) rest
    | _ => none

/-- The body of a block, after its opening brace: on lines of its own, or one argument on the same
line. -/
def blockBody : Nat → Parse (List Item)
  | 0, _ => none
  | fuel + 1, tokens =>
    match tokens with
    | .name text :: .symbol "=" :: rest => do
      let (value, rest) ← expression (fuelFor rest) true rest
      return ([.argument text value], ← expect? true (.symbol "\x7d") rest)
    | .newline :: _ => body fuel true [] tokens
    | .symbol "\x7d" :: _ => body fuel true [] tokens
    | _ => none

end

/-- Reads a whole document. -/
def document? (source : Bytes) : Option (List Item) := do
  let tokens ← Token.scan source
  let (items, _) ← body (2 * tokens.length + 2) false [] tokens
  return items

end Grammar

end Mosaic.Config
