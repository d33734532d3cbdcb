import Mosaic.Config.Value

/-! Expressions and bodies of configuration documents. -/
namespace Mosaic.Config

/-- Operators with one operand. -/
inductive UnaryOp where
  | negate
  | not
  deriving DecidableEq, Repr, Inhabited

/-- Operators with two operands. -/
inductive BinaryOp where
  | or
  | and
  | equal
  | notEqual
  | greater
  | greaterEqual
  | less
  | lessEqual
  | add
  | sub
  | mul
  | div
  | mod
  deriving DecidableEq, Repr, Inhabited

/-- An expression. A record's keys and values stand in two lists of one length. The names bound by
`eachTuple` and `eachRecord` are those of the key, empty if it has none, and of the element. What could
be read in two ways is `ambiguous` and has no value. -/
inductive Expr where
  | number (value : Number)
  | text (value : String)
  | ref (name : String)
  | ambiguous
  | current
  | group (inner : Expr)
  | template (parts : List Expr)
  | joined (pieces : Expr)
  | call (function : String) (arguments : List Expr) (expand : Bool)
  | access (source : Expr) (name : String)
  | index (source key : Expr)
  | splat (source each : Expr)
  | tuple (items : List Expr)
  | record (keys values : List Expr)
  | eachTuple (key element : String) (collection body condition : Expr)
  | eachRecord (key element : String) (collection name body condition : Expr) (grouped : Bool)
  | unary (op : UnaryOp) (operand : Expr)
  | binary (op : BinaryOp) (left right : Expr)
  | conditional (condition yes no : Expr)
  deriving Inhabited

/-- A piece of a template before directives are matched with their ends. -/
inductive Piece where
  | literal (text : String)
  | interpolation (inner : Expr)
  | whenever (condition : Expr)
  | otherwise
  | endWhenever
  | each (key element : String) (collection : Expr)
  | endEach
  deriving Inhabited

/-- A statement of a body: an argument, or a block with labels and a body of its own. -/
inductive Item where
  | argument (name : String) (value : Expr)
  | block (name : String) (labels : List String) (body : List Item)
  deriving Inhabited

end Mosaic.Config
