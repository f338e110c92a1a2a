import Switchboard.Json.Basic

/-!
# Engines for scripts

The language of scripts is not part of the service: it comes with an engine that the
service embeds.  An engine compiles the text of a script into a program, merges programs
into one, and calls a function of a program with values of its own.  What all of this
means is left to the engine.

## Main definitions

* `Script.Callee`: a function as a call names it.
* `Script.Engine`: what an engine offers.
* `Script.Engine.withMaxOperations`: an engine that is set up for the operations of a call.
-/

namespace Switchboard.Script

/-- A function as a call names it. -/
structure Callee where
  name : String
  arity : Nat
deriving DecidableEq

/-- Where the name of a function stands by which it is looked up. -/
inductive Naming where
  /-- In the script itself, as the name of a function that is called. -/
  | written
  /-- In a value, such as a pointer to a function, or a text that a script asks about or
  evaluates. -/
  | computed
deriving DecidableEq

/-- What an engine offers to those who embed it.  It says in words why it refuses
something. -/
structure Engine where
  Config : Type
  Program : Type
  Value : Type
  /-- The engine as it comes. -/
  new : Config
  setMaxOperations : Nat → Config → Config
  compile : Config → String → Except String Program
  empty : Program
  /-- A program without the statements outside its functions. -/
  functionsOnly : Program → Program
  /-- Two programs in one, the second one on top. -/
  merge : Program → Program → Program
  toValue : Json → Except String Value
  call : Config → Program → String → List Value → Except String Value
  ofValue : Value → Except String Json

/-- The engine for calls that may take so many operations, if there is a limit. -/
def Engine.withMaxOperations (engine : Engine) : Option Nat → engine.Config
  | none => engine.new
  | some limit => engine.setMaxOperations limit engine.new

end Switchboard.Script
