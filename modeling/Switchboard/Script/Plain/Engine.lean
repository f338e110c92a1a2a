import Switchboard.Script.Plain.Eval

/-!
# The plain engine

The engine of plain scripts.  A program is a library of functions, and all that can be set
is how many operations a call may take, where zero stands for any number.

## Main definitions

* `plain`: the engine.
-/

namespace Switchboard.Script.Plain

/-- Compile a script.  The statements outside its functions are read and left out. -/
def compile (source : String) : Except String Library :=
  match definitions? source with
  | some definitions => .ok ⟨definitions⟩
  | none => .error "Syntax error"

/-- Call a function of a library within some operations. -/
def call (limit : Nat) (library : Library) (name : String) (args : List Value) :
    Except Fault Value :=
  match library.find? ⟨name, args.length⟩ with
  | none => .error (.noEntry name)
  | some d => (d.evaluation args).run library.find? limit 0

def plain : Engine where
  Config := Nat
  Program := Library
  Value := Value
  new := 0
  setMaxOperations limit _ := limit
  compile _ := compile
  empty := .empty
  functionsOnly := id
  merge := .merge
  toValue v := .ok (.ofJson v)
  call limit library name args := (call limit library name args).mapError Fault.message
  ofValue v := v.toJson?.elim (.error "Unsupported type") .ok

end Switchboard.Script.Plain
