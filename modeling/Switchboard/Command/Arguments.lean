import Switchboard.Access.Caller
import Switchboard.Decimal.Literal

/-!
# The command line

The first argument names a command.  Behind it stand flags, options with a
value, and at most one argument by itself, in any order; behind two dashes
everything is an argument by itself.

## Main definitions

* `Command`: the commands with what they are given.
* `Shape`, `Shape.scan?`: what a command may be given, and how it is read.
* `Command.ofArgs args`: the command that a command line is.
-/

namespace Switchboard

/-- What a call is made with from the command line. -/
structure InvokeOptions where
  text : String
  /-- The paths of the files to read. -/
  registry : String
  context : String
  settings : Option String
  fragments : Option String
  caller : Caller
  eager : Bool
  strict : Bool
  json : Bool
deriving DecidableEq

inductive Command where
  /-- Take a call apart. -/
  | parse (text : String) (sql json : Bool)
  /-- Say what a key means in a data context. -/
  | resolve (token context : String) (fragments : Option String) (json : Bool)
  /-- Make a call. -/
  | invoke (options : InvokeOptions)
  /-- Check a registry. -/
  | registryCheck (registry : String) (json : Bool)
  /-- Say which version of the program this is. -/
  | version
  /-- Say what the commands are. -/
  | help
deriving DecidableEq

namespace Command

/-! ## Reading arguments by shape -/

/-- What a command may be given. -/
structure Shape where
  flags : List String
  options : List String
  /-- Options whose value may be a negative number. -/
  numbers : List String
  /-- Whether an argument may stand by itself. -/
  positional : Bool

structure Given where
  flags : List String
  options : List (String × String)
  positional : Option String
  help : Bool
deriving DecidableEq

def Given.none : Given :=
  ⟨[], [], .none, false⟩

namespace Given

def flag (given : Given) (name : String) : Bool :=
  given.flags.contains name

def option? (given : Given) (name : String) : Option String :=
  given.options.lookup name

end Given

/-- Whether an argument has a dash in front and something behind it. -/
def isDashed (arg : String) : Bool :=
  match arg.toList with
  | '-' :: _ :: _ => true
  | _ => false

/-- Whether an argument is a minus sign and digits. -/
def isNegativeNumber (arg : String) : Bool :=
  match arg.toList with
  | '-' :: digits => (Decimal.natural? digits).isSome
  | _ => false

/-- The name of an argument with two dashes, and the value behind its first
equals sign. -/
def longName? (arg : String) : Option (String × Option String) :=
  match arg.toList with
  | '-' :: '-' :: name =>
    match name.dropWhile (· != '=') with
    | [] => some (String.ofList name, none)
    | _ :: value => some (String.ofList (name.takeWhile (· != '=')), some (String.ofList value))
  | _ => none

namespace Shape

/-- Take an argument that stands by itself; there is room for one. -/
def takePositional? (shape : Shape) (given : Given) (arg : String) : Option Given :=
  if shape.positional && given.positional.isNone then some { given with positional := some arg }
  else none

/-- Take a flag or an option once. -/
def takeOption? (given : Given) (name value : String) : Option Given :=
  if (given.option? name).isSome then none
  else some { given with options := (name, value) :: given.options }

/-- Whether an argument can be the value of the option in front of it. -/
def canBeValue (shape : Shape) (name arg : String) : Bool :=
  !isDashed arg || (shape.numbers.contains name && isNegativeNumber arg)

/-- What arguments give to a command of a shape, if they go with it.  A call
for help ends the reading. -/
def scan? (shape : Shape) (given : Given) : List String → Option Given
  | [] => some given
  | "--" :: rest => rest.foldlM (shape.takePositional? ·) given
  | arg :: rest =>
    match longName? arg with
    | some ("help", none) => some { given with help := true }
    | some (name, value) =>
      if shape.flags.contains name then
        if value.isSome || given.flag name then none
        else scan? shape { given with flags := name :: given.flags } rest
      else if shape.options.contains name then
        match value, rest with
        | some value, rest =>
          match takeOption? given name value with
          | some given => scan? shape given rest
          | none => none
        | none, [] => none
        | none, value :: rest =>
          if shape.canBeValue name value then
            match takeOption? given name value with
            | some given => scan? shape given rest
            | none => none
          else none
      else none
    | none =>
      if isDashed arg then
        if arg.startsWith "-h" then some { given with help := true } else none
      else
        match shape.takePositional? given arg with
        | some given => scan? shape given rest
        | none => none

end Shape

/-! ## The commands -/

/-- The command of a call that is taken apart. -/
def parseShape : Shape :=
  ⟨["sql", "json"], [], [], true⟩

/-- The command of a key that is looked up. -/
def resolveShape : Shape :=
  ⟨["json"], ["context", "raw"], [], true⟩

/-- The command of a call that is made. -/
def invokeShape : Shape :=
  ⟨["eager", "strict", "json"],
   ["registry", "context", "config", "raw", "method", "tag", "version"], ["version"], true⟩

/-- The command of a registry that is checked. -/
def registryCheckShape : Shape :=
  ⟨["json"], ["registry"], [], false⟩

/-- What arguments give to a command, or the command that says what there is. -/
def ofGiven (shape : Shape) (args : List String) (build : Given → Option Command) :
    Option Command :=
  match shape.scan? .none args with
  | none => none
  | some given => if given.help then some .help else build given

/-- The caller that options describe. -/
def caller? (given : Given) : Option Caller := do
  let method ← Verb.ofText? ((given.option? "method").getD "GET")
  let version ← Decimal.int64? ((given.option? "version").getD "0").toList
  return ⟨method, given.option? "tag", version⟩

/-- The commands by name, among them the one that says what there is. -/
def names : List String :=
  ["parse", "resolve", "invoke", "registry-check", "help"]

/-- The command that a command line is, if it is one. -/
def ofArgs : List String → Option Command
  | [] => none
  | "parse" :: args => ofGiven parseShape args fun given => do
    return .parse (← given.positional) (given.flag "sql") (given.flag "json")
  | "resolve" :: args => ofGiven resolveShape args fun given => do
    return .resolve (← given.positional) (← given.option? "context") (given.option? "raw")
      (given.flag "json")
  | "invoke" :: args => ofGiven invokeShape args fun given => do
    return .invoke
      { text := ← given.positional
        registry := ← given.option? "registry"
        context := ← given.option? "context"
        settings := given.option? "config"
        fragments := given.option? "raw"
        caller := ← caller? given
        eager := given.flag "eager"
        strict := given.flag "strict"
        json := given.flag "json" }
  | "registry-check" :: args => ofGiven registryCheckShape args fun given => do
    return .registryCheck (← given.option? "registry") (given.flag "json")
  | ["help"] => some .help
  | ["help", name] => if names.contains name then some .help else none
  | "help" :: _ => none
  | "--version" :: _ => some .version
  | "--help" :: _ => some .help
  | arg :: _ =>
    if arg.startsWith "-V" then some .version
    else if arg.startsWith "-h" then some .help
    else none

end Command

end Switchboard
