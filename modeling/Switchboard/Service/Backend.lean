import Switchboard.Native.Table
import Switchboard.Registry.Basic
import Switchboard.Script.Host

/-!
# Running a call

A call that may be made runs on one of two backends.  The table of native
functions is asked for an overload that takes the arguments; the host of
scripts loads the script of the entry and calls the function in it.

What a call does outside itself is listed as its effects: the native function
that ran, and what the host was asked to do.

## Main definitions

* `Effect`: what a call did outside itself.
* `Failure`: why running a call fails.
* `Backend.runNative`, `Backend.runScript`: the two backends.
* `Backend.run`: the backend that an entry asks for.
-/

namespace Switchboard

/-- What a call did outside itself. -/
inductive Effect where
  /-- The native function at a place in the table ran on arguments. -/
  | native (name : String) (row : Nat) (args : List Json)
  /-- The host was asked to load a script. -/
  | load (source : String)
  /-- The host was asked to call a function. -/
  | call (name : String) (args : List Json)

/-- Why running a call fails. -/
inductive Failure where
  /-- No native function takes the arguments; some of the name may take others. -/
  | noSuchCallable (text signature : String) (accepted : List String)
  /-- The function is a script, and there is none. -/
  | sourceMissing (function signature : String)
  /-- The native function refused its arguments without a word. -/
  | argumentsRefused (text signature : String) (accepted : List String)
  /-- The native function failed, in its own words. -/
  | target (message : String)
  /-- The script failed, in the words of the host. -/
  | script (function message : String)
deriving DecidableEq

namespace Failure

def failureClass : Failure → String
  | noSuchCallable .. => "no_such_callable"
  | sourceMissing .. => "script_function_missing"
  | argumentsRefused .. => "argument_type_mismatch"
  | target _ => "target_invocation_fault"
  | script .. => "script_execution_failed"

/-- What a diagnostic adds about the overloads that take other arguments. -/
def acceptedText (accepted : List String) : String :=
  if accepted.isEmpty then ""
  else " but only [" ++ " | ".intercalate accepted ++ "] are registered"

def message : Failure → String
  | noSuchCallable text signature accepted =>
    "no native function matches `" ++ text ++ "`; expected " ++ signature ++
      acceptedText accepted ++ ". Check the function name and argument count, " ++
      "and call it as function(key0,key1,...) without spaces"
  | sourceMissing function signature =>
    "script function `" ++ function ++ "` has no script source; expected " ++ signature
  | argumentsRefused text signature accepted =>
    "argument type mismatch in `" ++ text ++
      "`: the function rejected the supplied argument values; " ++ signature ++ " accepts [" ++
      " | ".intercalate accepted ++ "]"
  | target words => words
  | script function words => "script function `" ++ function ++ "` failed: " ++ words

end Failure

/-- What is remembered from call to call: by the native functions and by the host. -/
structure Memory (ν σ : Type) where
  natives : ν
  scripts : σ

/-- How a run ends: its result, its effects in order, and what is remembered from
then on. -/
structure Run (ε μ : Type) where
  result : Except ε Json
  effects : List Effect
  memory : μ

namespace Backend

variable {ν σ : Type}

/-- Run the overload that takes the arguments of a call. -/
def runNative (natives : Native.Table ν) (b : Binding) (memory : ν) : Run Failure ν :=
  match natives.lookUp b.call.method b.args with
  | .noArity => ⟨.error (.noSuchCallable b.call.text b.signature []), [], memory⟩
  | .kindMismatch candidates =>
    ⟨.error (.noSuchCallable b.call.text b.signature
      (candidates.map fun overload => Binding.typedSignature b.call.method overload.params)),
      [], memory⟩
  | .found row overload =>
    let effects := [Effect.native overload.name row b.args]
    match overload.run b.args memory with
    | (.ok v, memory) => ⟨.ok v, effects, memory⟩
    | (.error fault, memory) =>
      if Text.isAllBlank fault.message then
        ⟨.error (.argumentsRefused b.call.text b.signature
          [Binding.typedSignature b.call.method overload.params]), effects, memory⟩
      else ⟨.error (.target fault.message), effects, memory⟩

/-- Load the script of an entry and call the function of a call in it. -/
def runScript (host : Script.Host σ) (entry : Entry) (b : Binding) (memory : σ) :
    Run Failure σ :=
  match entry.source? with
  | none =>
    ⟨.error (.sourceMissing b.call.method (Binding.typedSignature b.call.method b.kinds)), [],
      memory⟩
  | some source =>
    match host.load source memory with
    | (.error words, memory) => ⟨.error (.script b.call.method words), [.load source], memory⟩
    | (.ok (), memory) =>
      match host.call b.call.method b.args memory with
      | (result, memory) =>
        ⟨result.mapError (.script b.call.method),
          [.load source, .call b.call.method b.args], memory⟩

/-- Run a call on the backend that its entry asks for.  Scripts take values
only, so their calls are bound eagerly. -/
def run (natives : Native.Table ν) (host : Script.Host σ) (entry : Entry) (call : Call)
    (context : Json.Fields) (resolution : Resolution) (fragments : Option Fragments)
    (memory : Memory ν σ) : Run Failure (Memory ν σ) :=
  match entry.execution with
  | .script =>
    let ran := runScript host entry (Binding.bind call context fragments .eager) memory.scripts
    ⟨ran.result, ran.effects, { memory with scripts := ran.memory }⟩
  | _ =>
    let ran := runNative natives (Binding.bind call context fragments resolution) memory.natives
    ⟨ran.result, ran.effects, { memory with natives := ran.memory }⟩

end Backend

end Switchboard
