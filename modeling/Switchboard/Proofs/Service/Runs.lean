import Switchboard.Service.Basic

/-!
# Runs of a service

A run answers its steps one by one, each from the state that the steps before
have left.  The registry in that state is the one of the last replacement.

## Main statements

* `Service.getElem?_run`: the answer to a step of a run.
* `Service.registry_run`: the registry that a run leaves installed.
-/

namespace Switchboard.Service

variable {ν σ : Type}

/-- What was done outside the service while a step was answered. -/
def Answer.effects : Answer → List Effect
  | .invoked _ effects => effects
  | .replaced _ => []

/-- A request that is nothing but a call. -/
def bare (text : String) : Request :=
  ⟨text, [], .anonymous, none⟩

/-- The registry that is installed behind steps: that of the last replacement. -/
def installed (registry : Registry) : List Step → Registry
  | [] => registry
  | .invoke _ :: rest => installed registry rest
  | .replace new :: rest => installed new rest

@[simp] theorem run_cons (service : Service ν σ) (s : State ν σ) (first : Step) (rest : List Step) :
    service.run s (first :: rest) =
      ((service.step s first).1 :: (service.run (service.step s first).2 rest).1,
        (service.run (service.step s first).2 rest).2) := rfl

theorem run_append (service : Service ν σ) (s : State ν σ) (steps rest : List Step) :
    service.run s (steps ++ rest) =
      ((service.run s steps).1 ++ (service.run (service.run s steps).2 rest).1,
        (service.run (service.run s steps).2 rest).2) := by
  induction steps generalizing s with
  | nil => rfl
  | cons first steps ih => simp only [List.cons_append, run_cons, ih]

/-- Each step is answered from the state behind the steps before it. -/
theorem getElem?_run (service : Service ν σ) (s : State ν σ) (steps : List Step) (i : Nat) :
    (service.run s steps).1[i]? =
      steps[i]?.map fun next => (service.step (service.run s (steps.take i)).2 next).1 := by
  induction steps generalizing s i with
  | nil => rfl
  | cons first rest ih =>
    cases i with
    | zero => rfl
    | succ i => simp only [run_cons, List.getElem?_cons_succ, List.take_succ_cons, ih]

theorem getElem?_run_invoke (service : Service ν σ) (s : State ν σ) (before after : List Step)
    (request : Request) :
    (service.run s (before ++ .invoke request :: after)).1[before.length]? =
      some (.invoked (service.invoke request (service.run s before).2).result
        (service.invoke request (service.run s before).2).effects) := by
  rw [getElem?_run, List.getElem?_append_right (Nat.le_refl _), Nat.sub_self,
    List.take_left]
  rfl

@[simp] theorem registry_step (service : Service ν σ) (s : State ν σ) (next : Step) :
    (service.step s next).2.registry = installed s.registry [next] := by
  cases next <;> rfl

/-- No call changes the registry. -/
@[simp] theorem registry_run (service : Service ν σ) (s : State ν σ) (steps : List Step) :
    (service.run s steps).2.registry = installed s.registry steps := by
  induction steps generalizing s with
  | nil => rfl
  | cons first rest ih =>
    rw [run_cons, ih, registry_step]
    cases first <;> rfl

end Switchboard.Service
