/-!
# Checks in order

A check yields a value or says what is wrong.  Checks in order pass exactly if
each of them does on what the ones before it have yielded.

## Main statements

* `bind_eq_ok_iff`: when a check passes that goes on behind another.
* `mapError_eq_ok_iff`: when a check passes whose faults are worded anew.
* `map_eq_ok_iff`: when a check passes whose value is made into another.
-/

namespace Switchboard

/-- Checks in order pass if each of them does. -/
@[simp] theorem bind_eq_ok_iff {ε α β : Type} {first : Except ε α} {next : α → Except ε β} {b : β} :
    (first >>= next) = .ok b ↔ ∃ a, first = .ok a ∧ next a = .ok b := by
  cases first <;> simp [bind, Except.bind]

@[simp] theorem mapError_ok {ε ε' α : Type} (f : ε → ε') (a : α) :
    (Except.ok a).mapError f = .ok a :=
  rfl

@[simp] theorem mapError_error {ε ε' α : Type} (f : ε → ε') (e : ε) :
    (Except.error e : Except ε α).mapError f = .error (f e) :=
  rfl

/-- Another wording of its faults does not make a check pass. -/
@[simp] theorem mapError_eq_ok_iff {ε ε' α : Type} {check : Except ε α} {f : ε → ε'} {a : α} :
    check.mapError f = .ok a ↔ check = .ok a := by
  cases check <;> simp

/-- What is made of the value does not make a check fail. -/
@[simp] theorem map_eq_ok_iff {ε α β : Type} {check : Except ε α} {f : α → β} {b : β} :
    check.map f = .ok b ↔ ∃ a, check = .ok a ∧ f a = b := by
  cases check <;> simp [Except.map]

end Switchboard
