import Switchboard.Script.Plain.Library
import Switchboard.Script.Plain.Value

/-!
# Evaluations step by step

An evaluation does three things that concern others: it ends, it takes an operation, and
it looks a function up.  What it does next may depend on the definition that it finds, and
on nothing else of what is defined.

## Main definitions

* `Evaluation`: what is left of an evaluation.
* `Evaluation.run`: how it ends with some definitions within some operations.
-/

namespace Switchboard.Script.Plain

/-- What is left of an evaluation. -/
inductive Evaluation (α : Type) where
  | done (result : α)
  /-- An operation is taken, if there is one left. -/
  | operation (next : Unit → Evaluation α)
  | lookUp (naming : Naming) (callee : Callee) (next : Option Definition → Evaluation α)

namespace Evaluation

variable {α β : Type}

def bind : Evaluation α → (α → Evaluation β) → Evaluation β
  | done a, f => f a
  | operation next, f => operation fun u => (next u).bind f
  | lookUp naming callee next, f => lookUp naming callee fun found => (next found).bind f

instance : Monad Evaluation where
  pure := done
  bind := bind

/-- How an evaluation ends that has taken some operations and may take no more than
`limit`, or any number if `limit` is zero. -/
def run (find? : Callee → Option Definition) (limit : Nat) :
    Nat → Evaluation (Except Fault α) → Except Fault α
  | _, done result => result
  | spent, operation next =>
    if limit = 0 ∨ spent + 1 ≤ limit then (next ()).run find? limit (spent + 1)
    else .error .tooManyOperations
  | spent, lookUp _ callee next => (next (find? callee)).run find? limit spent

end Evaluation

end Switchboard.Script.Plain
