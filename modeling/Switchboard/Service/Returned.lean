import Switchboard.Kind

/-!
# Checking what a function returned

A result is checked against what its function is declared to return: `null`
goes with nothing declared, and every other value with its own kind or with
any.
-/

namespace Switchboard

/-- Why a result does not go with its declaration. -/
inductive ReturnFault where
  | mismatch (function actual declared : String)
  /-- The declaration names no type that is known. -/
  | unresolvable (function declared : String)
deriving DecidableEq

namespace ReturnFault

def failureClass : ReturnFault → String
  | mismatch .. => "return_type_mismatch"
  | unresolvable .. => "unresolvable_declared_type"

def message : ReturnFault → String
  | mismatch function actual declared =>
    "remote function `" ++ function ++ "` returned " ++ actual ++
      " but the registry declares " ++ declared
  | unresolvable function declared =>
    "remote function `" ++ function ++ "` declares return type `" ++ declared ++
      "`, which names no known type"

end ReturnFault

/-- Check a result against the type that its function is declared to return.
A `null` result of a function declared to return something is a mismatch, even
where the declaration names no type. -/
def checkReturned (function : String) (result : Json) (declared : Option String) :
    Except ReturnFault Unit :=
  let name := (declared.map Text.trim).getD ""
  match Declaration.ofName? declared, result with
  | some .void, .null => .ok ()
  | some .void, v =>
    .error (.mismatch function (Kind.of v).typeName Declaration.void.typeName)
  | _, .null => .error (.mismatch function Declaration.void.typeName name)
  | none, _ => .error (.unresolvable function name)
  | some (.kind kind), v =>
    if kind.accepts (Kind.of v) then .ok ()
    else .error (.mismatch function (Kind.of v).typeName kind.typeName)

end Switchboard
