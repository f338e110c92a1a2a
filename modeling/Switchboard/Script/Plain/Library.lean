import Switchboard.Script.Plain.Parser

/-!
# Libraries of functions

A library holds functions, one for each name and number of parameters.  To merge
others into it is to put them in place of those that they define again.

## Main definitions

* `Library.find? library callee`: the definition of a function.
* `Library.merge library other`: both libraries in one.
-/

namespace Switchboard.Script.Plain

/-- Functions, the latest first. -/
structure Library where
  functions : List Definition

namespace Library

def empty : Library :=
  ⟨[]⟩

instance : Inhabited Library := ⟨empty⟩

/-- The definition of a function by name and number of parameters. -/
def find? (library : Library) (callee : Callee) : Option Definition :=
  library.functions.find? (·.callee == callee)

/-- The functions of both libraries, those of the second in place of the functions
that they define again. -/
def merge (library other : Library) : Library :=
  ⟨other.functions ++ library.functions.filter fun old =>
    !other.functions.any (·.callee == old.callee)⟩

/-- A function is looked for in the second library first. -/
@[simp] theorem find?_merge (library other : Library) (callee : Callee) :
    (library.merge other).find? callee = (other.find? callee).or (library.find? callee) := by
  unfold merge find?
  rw [List.find?_append]
  cases h : other.functions.find? (·.callee == callee) with
  | some d => rfl
  | none =>
    have hnone : ∀ d ∈ other.functions, d.callee ≠ callee := by simpa using h
    rw [Option.none_or, List.find?_filter]
    congr 1
    funext old
    by_cases hold : old.callee = callee
    · simpa [hold] using hnone
    · simp [hold]

end Library

end Switchboard.Script.Plain
