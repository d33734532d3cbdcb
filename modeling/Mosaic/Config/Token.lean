import Mosaic.Config.Identifier
import Mosaic.Text.Blank

/-! The tokens of a configuration document. Quoted texts and here-documents are templates: their
literal pieces and the sequences inside them are tokens of the same stream. Blanks and comments leave
no token, except that a line comment leaves the line break that ends it. -/
namespace Mosaic.Config

/-- A token. The flag of a sequence's brace says that blanks beside it are dropped. -/
inductive Token where
  | name (text : String)
  | number (text : String)
  | symbol (text : String)
  | newline
  | openQuote
  | closeQuote
  | openHeredoc (flush : Bool)
  | closeHeredoc
  | literal (text : String)
  | openInterpolation (trim : Bool)
  | openDirective (trim : Bool)
  | closeSequence (trim : Bool)
  deriving DecidableEq, Repr, Inhabited

/-- What the scanner is inside of: expression text with the number of open braces, a quoted text, or a
here-document with its end marker. -/
inductive Mode where
  | expression (braces : Nat)
  | quoted
  | heredoc (marker : String) (lineStart : Bool)
  deriving DecidableEq, Repr, Inhabited

namespace Token

/-- How many bytes the first byte of a character announces to follow it. -/
def announced (first : UInt8) : Nat :=
  if Text.within 0xC0 0xDF first then 1
  else if Text.within 0xE0 0xEF first then 2
  else if Text.within 0xF0 0xF7 first then 3
  else 0

/-- The characters of a document. Bytes in the shape of a character that encode none are replaced one by
one. Any other stray byte is read as two carriage returns, which are valid in comments only. -/
def sourceChars : Bytes → List Char
  | [] => []
  | first :: rest =>
    let extra := announced first
    let more := rest.take extra
    if first < 0x80 || (extra != 0 && more.length = extra && more.all (Text.within 0x80 0xBF)) then
      Text.decodeLossy (first :: more) ++ sourceChars (rest.drop extra)
    else '\r' :: '\r' :: sourceChars rest
termination_by bytes => bytes.length
decreasing_by all_goals simp only [List.length_drop, List.length_cons]; omega

/-- The symbols, longer ones before their own beginnings. -/
def symbols : List (List Char) :=
  ["...", "==", "!=", ">=", "<=", "&&", "||", "=>", "::", "[", "]", "(", ")", ".", ",", "*", "/", "%",
    "+", "-", "=", "<", ">", "!", "?", ":"].map String.toList

/-- What follows the given characters. -/
def after? : List Char → List Char → Option (List Char)
  | [], rest => some rest
  | c :: more, d :: rest => if c = d then after? more rest else none
  | _ :: _, [] => none

/-- The symbol at the front, and what follows it. -/
def symbol? (source : List Char) : Option (String × List Char) :=
  symbols.findSome? fun text => (after? text source).map (String.ofList text, ·)

/-- What follows the end of a block comment. -/
def afterComment? : List Char → Option (List Char)
  | '*' :: '/' :: rest => some rest
  | _ :: rest => afterComment? rest
  | [] => none

/-- The length of the number at the front: digits, points and exponents in any order after a digit,
ending in no point. The second argument counts characters since the last that may end a number. -/
def numberLength : List Char → Nat → Nat
  | 'e' :: '+' :: c :: rest, pending =>
    if c.isDigit then pending + 3 + numberLength rest 0 else 0
  | 'E' :: '+' :: c :: rest, pending =>
    if c.isDigit then pending + 3 + numberLength rest 0 else 0
  | 'e' :: '-' :: c :: rest, pending =>
    if c.isDigit then pending + 3 + numberLength rest 0 else 0
  | 'E' :: '-' :: c :: rest, pending =>
    if c.isDigit then pending + 3 + numberLength rest 0 else 0
  | 'e' :: c :: rest, pending => if c.isDigit then pending + 2 + numberLength rest 0 else 0
  | 'E' :: c :: rest, pending => if c.isDigit then pending + 2 + numberLength rest 0 else 0
  | '.' :: rest, pending => numberLength rest (pending + 1)
  | c :: rest, pending => if c.isDigit then pending + 1 + numberLength rest 0 else 0
  | [], _ => 0

/-- The value of a hexadecimal digit. -/
def hexDigit? (c : Char) : Option Nat :=
  if c.isDigit then some (c.toNat - '0'.toNat)
  else if 'a' ≤ c && c ≤ 'f' then some (c.toNat - 'a'.toNat + 10)
  else if 'A' ≤ c && c ≤ 'F' then some (c.toNat - 'A'.toNat + 10)
  else none

/-- The character whose code point stands in the given hexadecimal digits. -/
def codePoint? (digits : List Char) : Option Char := do
  let n ← digits.foldlM (fun sum c => (hexDigit? c).map (sum * 16 + ·)) 0
  if n < 0xD800 || (0xDFFF < n && n < 0x110000) then some (Char.ofNat n) else none

/-- The character that an escape stands for, and what follows. The backslash is already read. -/
def escape? : List Char → Option (Char × List Char)
  | 'n' :: rest => some ('\n', rest)
  | 'r' :: rest => some ('\r', rest)
  | 't' :: rest => some ('\t', rest)
  | '"' :: rest => some ('"', rest)
  | '\\' :: rest => some ('\\', rest)
  | 'u' :: a :: b :: c :: d :: rest => (codePoint? [a, b, c, d]).map (·, rest)
  | 'U' :: a :: b :: c :: d :: e :: f :: g :: h :: rest =>
    (codePoint? [a, b, c, d, e, f, g, h]).map (·, rest)
  | _ => none

/-- The run of ordinary characters and escapes at the front of a quoted text. -/
def quotedRun : Nat → List Char → Option (List Char × List Char)
  | 0, _ => none
  | fuel + 1, source =>
    match source with
    | '\\' :: rest => do
      let (c, rest) ← escape? rest
      let (run, rest) ← quotedRun fuel rest
      return (c :: run, rest)
    | c :: rest =>
      if c = '"' || c = '$' || c = '%' then some ([], source)
      else if c = '\n' || c = '\r' then none
      else do
        let (run, rest) ← quotedRun fuel rest
        return (c :: run, rest)
    | [] => none

/-- A template sequence at the front, and what follows its opening brace. -/
def opening? : List Char → Option (Token × List Char)
  | '$' :: '{' :: '~' :: rest => some (openInterpolation true, rest)
  | '$' :: '{' :: rest => some (openInterpolation false, rest)
  | '%' :: '{' :: '~' :: rest => some (openDirective true, rest)
  | '%' :: '{' :: rest => some (openDirective false, rest)
  | _ => none

/-- The rest of a line of a here-document: up to its end or up to the next sequence. Gives the text as
written, its meaning, whether the line ended, and what follows. -/
def heredocRun : List Char → Option (List Char × List Char × Bool × List Char)
  | '\r' :: '\n' :: rest => some (['\r', '\n'], ['\r', '\n'], true, rest)
  | '\n' :: rest => some (['\n'], ['\n'], true, rest)
  | '$' :: '$' :: '{' :: rest => do
    let (raw, text, ended, rest) ← heredocRun rest
    return ('$' :: '$' :: '{' :: raw, '$' :: '{' :: text, ended, rest)
  | '%' :: '%' :: '{' :: rest => do
    let (raw, text, ended, rest) ← heredocRun rest
    return ('%' :: '%' :: '{' :: raw, '%' :: '{' :: text, ended, rest)
  | '$' :: '{' :: rest => some ([], [], false, '$' :: '{' :: rest)
  | '%' :: '{' :: rest => some ([], [], false, '%' :: '{' :: rest)
  | c :: rest =>
    if c = '\r' then none
    else do
      let (raw, text, ended, rest) ← heredocRun rest
      return (c :: raw, c :: text, ended, rest)
  | [] => none

/-- The opening of a here-document: its flush mark, its end marker and what follows the line. -/
def heredoc? (source : List Char) : Option (Bool × String × List Char) := do
  let rest ← after? ['<', '<'] source
  let (flush, rest) := match rest with
    | '-' :: more => (true, more)
    | more => (false, more)
  match rest with
  | c :: _ =>
    if Identifier.isStart c then
      let marker := rest.takeWhile Identifier.isInner
      match rest.dropWhile Identifier.isInner with
      | '\r' :: '\n' :: more => some (flush, String.ofList marker, more)
      | '\n' :: more => some (flush, String.ofList marker, more)
      | _ => none
    else none
  | [] => none

/-- One step inside expression text. -/
def stepExpression (braces : Nat) (outer : List Mode) (source : List Char) :
    Option (List Token × List Mode × List Char) :=
  let here := Mode.expression braces :: outer
  match source with
  | [] => none
  | ' ' :: rest => some ([], here, rest)
  | '\t' :: rest => some ([], here, rest)
  | '\n' :: rest => some ([newline], here, rest)
  | '\r' :: '\n' :: rest => some ([newline], here, rest)
  | '"' :: rest => some ([openQuote], .quoted :: here, rest)
  | '{' :: rest => some ([symbol "\x7b"], .expression (braces + 1) :: outer, rest)
  | '}' :: rest =>
    if braces = 0 && !outer.isEmpty then some ([closeSequence false], outer, rest)
    else some ([symbol "\x7d"], .expression (braces - 1) :: outer, rest)
  | '~' :: '}' :: rest =>
    if braces = 0 && !outer.isEmpty then some ([closeSequence true], outer, rest) else none
  | '/' :: '*' :: rest => (afterComment? rest).map ([], here, ·)
  | c :: rest =>
    if c = '#' || (c = '/' && rest.head? = some '/') then
      match rest.dropWhile (· != '\n') with
      | _ :: more => some ([newline], here, more)
      | [] => some ([], here, [])
    else if c.isDigit then
      let length := 1 + numberLength rest 0
      some ([number (String.ofList (source.take length))], here, source.drop length)
    else if Identifier.isStart c then
      some ([name (String.ofList (source.takeWhile Identifier.isInner))], here,
        source.dropWhile Identifier.isInner)
    else
      match heredoc? source with
      | some (flush, marker, more) => some ([openHeredoc flush], .heredoc marker true :: here, more)
      | none => (symbol? source).map fun (text, more) => ([symbol text], here, more)

/-- One step inside a quoted text. -/
def stepQuoted (outer : List Mode) (source : List Char) :
    Option (List Token × List Mode × List Char) :=
  let here := Mode.quoted :: outer
  match opening? source with
  | some (token, rest) => some ([token], .expression 0 :: here, rest)
  | none =>
    match source with
    | '"' :: rest => some ([closeQuote], outer, rest)
    | '$' :: '$' :: '{' :: rest => some ([literal "$\x7b"], here, rest)
    | '%' :: '%' :: '{' :: rest => some ([literal "%\x7b"], here, rest)
    | '$' :: rest => some ([literal "$"], here, rest)
    | '%' :: rest => some ([literal "%"], here, rest)
    | _ => (quotedRun (source.length + 1) source).map fun (run, rest) =>
      ([literal (String.ofList run)], here, rest)

/-- One step inside a here-document. A line that holds nothing but the marker ends it. -/
def stepHeredoc (marker : String) (lineStart : Bool) (outer : List Mode) (source : List Char) :
    Option (List Token × List Mode × List Char) :=
  match opening? source with
  | some (token, rest) => some ([token], .expression 0 :: .heredoc marker false :: outer, rest)
  | none => do
    let (raw, text, ended, rest) ← heredocRun source
    if ended && lineStart && Text.trimText (String.ofList raw) = marker then
      return ([closeHeredoc, newline], outer, rest)
    else
      return ([literal (String.ofList text)], .heredoc marker ended :: outer, rest)

/-- One step of the scanner: the tokens it finds, what it is inside of afterwards, and what is left.
Every step reads at least one character. -/
def step : List Mode → List Char → Option (List Token × List Mode × List Char)
  | .expression braces :: outer, source => stepExpression braces outer source
  | .quoted :: outer, source => stepQuoted outer source
  | .heredoc marker lineStart :: outer, source => stepHeredoc marker lineStart outer source
  | [], _ => none

/-- Scans to the end, which must lie outside quoted texts, here-documents and their sequences. -/
def scanFrom : Nat → List Mode → List Char → Option (List Token)
  | _, modes, [] => if modes.length = 1 then some [] else none
  | 0, _, _ => none
  | fuel + 1, modes, source => do
    let (tokens, modes, rest) ← step modes source
    return tokens ++ (← scanFrom fuel modes rest)

/-- The tokens of a document. A byte order mark at the front is skipped. -/
def scan (source : Bytes) : Option (List Token) :=
  let chars := sourceChars source
  let chars := if chars.head? = some (Char.ofNat 0xFEFF) then chars.drop 1 else chars
  scanFrom (chars.length + 1) [.expression 0] chars

end Token

end Mosaic.Config
