import Mosaic.Text.Blank
import Mosaic.Text.Literal
import Mosaic.Text.Quoted

/-! Flags of a command. They stand before the other arguments, with one dash or two, and their values
follow an equals sign or are the next argument. Two dashes alone end the flags. -/
namespace Mosaic.CommandLine

/-- What a flag takes: nothing, a whole number, a text, or texts that add up. -/
inductive FlagKind where
  | switch
  | number
  | text
  | texts
  deriving DecidableEq, Repr, Inhabited

/-- A flag: its names, the first of which is the one it is asked for by. -/
structure Flag where
  names : List String
  kind : FlagKind
  deriving DecidableEq, Repr, Inhabited

/-- Why flags cannot be read. -/
inductive FlagFault where
  | badName (argument : String)
  | undefined (name : String)
  | valueMissing (name : String)
  | badSwitch (value name : String)
  | badNumber (value name : String) (fault : Text.LiteralFault)
  | repeated (name other : String)
  deriving DecidableEq, Repr, Inhabited

namespace FlagFault

/-- The wording of a fault. -/
def message : FlagFault → String
  | badName argument => "bad flag syntax: " ++ argument
  | undefined name => "flag provided but not defined: -" ++ name
  | valueMissing name => "flag needs an argument: -" ++ name
  | badSwitch value name =>
    "invalid boolean value " ++ Text.quote value ++ " for -" ++ name ++ ": parse error"
  | badNumber value name fault =>
    "invalid value " ++ Text.quote value ++ " for flag -" ++ name ++ ": " ++
      match fault with
      | .malformed => "parse error"
      | .outOfRange => "value out of range"
  | repeated name other => "Cannot use two forms of the same flag: " ++ name ++ " " ++ other

end FlagFault

/-- A flag on a command line: the name it was given by and its value. -/
structure Given where
  name : String
  value : String
  deriving DecidableEq, Repr, Inhabited

/-- The flag with a name. -/
def flag? (flags : List Flag) (name : String) : Option Flag :=
  flags.find? (·.names.contains name)

/-- Accepts a value for a flag. -/
def checkValue (flag : Flag) (name value : String) : Except FlagFault Unit :=
  match flag.kind with
  | .switch => if (Text.parseBool? value).isSome then .ok () else .error (.badSwitch value name)
  | .number =>
    match Text.parseInteger value with
    | .ok _ => .ok ()
    | .error fault => .error (.badNumber value name fault)
  | _ => .ok ()

/-- What an argument is: not a flag, the end of the flags, or a flag with its name and perhaps a value.
The error is that of a flag without a proper name. -/
inductive Word where
  | plain
  | stop
  | flag (name : String) (value : Option String)
  deriving DecidableEq, Repr, Inhabited

/-- A flag without its dashes. -/
def nameAndValue (argument : String) (body : List Char) : Except FlagFault Word :=
  match body with
  | [] => .error (.badName argument)
  | first :: rest =>
    if first = '-' || first = '=' then .error (.badName argument)
    else
      let name := String.ofList (first :: rest.takeWhile (· != '='))
      match rest.dropWhile (· != '=') with
      | [] => .ok (.flag name none)
      | _ :: value => .ok (.flag name (some (String.ofList value)))

/-- What an argument is. -/
def word (argument : String) : Except FlagFault Word :=
  match argument.toList with
  | ['-', '-'] => .ok .stop
  | '-' :: '-' :: body => nameAndValue argument body
  | '-' :: first :: rest => nameAndValue argument (first :: rest)
  | _ => .ok .plain

/-- Adds a flag to what is read after it, if its value is accepted. -/
def withFlag (flag : Flag) (name value : String) (after : Except FlagFault (List Given × List String)) :
    Except FlagFault (List Given × List String) := do
  checkValue flag name value
  let (given, others) ← after
  return ({ name, value } :: given, others)

/-- Reads the flags at the beginning of arguments and gives them with the other arguments. -/
def readFlags (flags : List Flag) : List String → Except FlagFault (List Given × List String)
  | [] => .ok ([], [])
  | argument :: rest =>
    match word argument with
    | .error fault => .error fault
    | .ok .plain => .ok ([], argument :: rest)
    | .ok .stop => .ok ([], rest)
    | .ok (.flag name value) =>
      match flag? flags name with
      | none => .error (.undefined name)
      | some flag =>
        match value with
        | some value => withFlag flag name value (readFlags flags rest)
        | none =>
          if flag.kind = .switch then withFlag flag name "true" (readFlags flags rest)
          else
            match rest with
            | [] => .error (.valueMissing name)
            | value :: more => withFlag flag name value (readFlags flags more)

/-- The first two different names of a flag that were both given. -/
def twoForms? (flag : Flag) (given : List Given) : Option (String × String) :=
  match flag.names.filter fun name => given.any (·.name == name) with
  | first :: second :: _ => some (second, first)
  | _ => none

/-- Flags as given on a command line. -/
structure Flags where
  known : List Flag := []
  given : List Given := []
  deriving DecidableEq, Repr, Inhabited

/-- Reads flags of which none is given by two of its names. -/
def Flags.parse (known : List Flag) (arguments : List String) :
    Except FlagFault (Flags × List String) := do
  let (given, others) ← readFlags known arguments
  match known.findSome? (twoForms? · given) with
  | some (name, other) => throw (.repeated name other)
  | none => return ({ known, given }, others)

namespace Flags

/-- The values of a flag in the order in which they were given. -/
def values (flags : Flags) (name : String) : List String :=
  match flag? flags.known name with
  | none => []
  | some flag => (flags.given.filter fun one => flag.names.contains one.name).map (·.value)

/-- Whether a flag was given. -/
def isSet (flags : Flags) (name : String) : Bool := !(flags.values name).isEmpty

/-- The last text given for a flag. -/
def text (flags : Flags) (name standard : String) : String :=
  (flags.values name).getLast?.getD standard

/-- The last number given for a flag. -/
def number (flags : Flags) (name : String) (standard : Int64) : Int64 :=
  match (flags.values name).getLast? with
  | none => standard
  | some value => (Text.parseInteger value).toOption.getD standard

/-- Whether a switch is on. -/
def isOn (flags : Flags) (name : String) : Bool :=
  ((flags.values name).getLast?.bind Text.parseBool?).getD false

/-- All texts given for a flag. Each value may hold several, with commas between them. -/
def texts (flags : Flags) (name : String) : List String :=
  (flags.values name).flatMap fun value => (value.splitOn ",").map Text.trimText

end Flags

end Mosaic.CommandLine
