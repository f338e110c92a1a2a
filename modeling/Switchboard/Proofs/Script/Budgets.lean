import Switchboard.Proofs.Script.Histories

/-!
# Calls with more to spend

How many operations a call may take decides over nothing but whether its evaluation is cut
short.  What has a value within one limit takes the same steps within every limit that affords
as much, and has the same value.  A limit of zero affords everything, so the smallest number
is the greatest limit.

## Main definitions

* `Semantics.Covers`: a limit affords what another one affords.

## Main statements

* `Semantics.Ends.of_covers`: an evaluation with a value has it within every greater limit.
* `Host.loadThenCall_of_covers`: so has a call.
-/

namespace Switchboard.Script

variable {engine : Engine}

namespace Semantics

/-- Whatever one limit affords another one affords. -/
def Covers (more less : Nat) : Prop :=
  ∀ operations, Affords less operations → Affords more operations

/-- A limit other than zero is covered by the limits above it and by zero. -/
theorem covers_of_le {more less : Nat} (hless : less ≠ 0) (hmore : more ≠ 0 → less ≤ more) :
    Covers more less := fun operations h => by
  have hle : operations ≤ less := h.resolve_left hless
  by_cases hzero : more = 0
  · exact Or.inl hzero
  · exact Or.inr (Nat.le_trans hle (hmore hzero))

variable {sem : Semantics engine} {find : sem.Finder} {more less : Nat} {point : sem.Point}

/-- What goes on within a limit goes on from the same point within a greater one. -/
theorem step_of_covers (hcovers : Covers more less) {next : sem.Point}
    (h : sem.step find less point = .inr next) : sem.step find more point = .inr next := by
  unfold step at h ⊢
  split at h
  · cases h
  · split at h
    · rename_i hpaid
      rw [if_pos (hcovers _ hpaid)]
      exact h
    · cases h
  · exact h

/-- What ends with a value ends with it by itself, not for want of operations. -/
theorem step_eq_ok {v : engine.Value} (h : sem.step find less point = .inl (.ok v)) (more : Nat) :
    sem.step find more point = .inl (.ok v) := by
  unfold step at h ⊢
  split at h
  · exact h
  · split at h <;> cases h
  · cases h

/-- An evaluation that has a value has it within every greater limit: by induction on its
steps, each of which is the same there. -/
theorem Ends.of_covers (hcovers : Covers more less) {v : engine.Value}
    (h : sem.Ends find less point (.ok v)) : sem.Ends find more point (.ok v) := by
  generalize hresult : Except.ok v = result at h
  induction h with
  | last hlast =>
    subst hresult
    exact .last (step_eq_ok hlast more)
  | step hstep _ ih => exact .step (step_of_covers hcovers hstep) (ih hresult)

theorem outcome_of_covers (hcovers : Covers more less) {state : sem.State} {v : engine.Value}
    (h : sem.outcome find less state = .ok v) : sem.outcome find more state = .ok v :=
  outcome_of_ends ((ends_of_outcome h).of_covers hcovers)

/-- A call that has a value has it where its engine affords as much. -/
theorem call_of_covers (hevaluates : sem.EvaluatesCalls) {rich poor : engine.Config}
    (hcovers : Covers (sem.limit rich) (sem.limit poor)) {program : engine.Program}
    (hprogram : sem.OnlyFunctions program) {name : String} {args : List engine.Value}
    {v : engine.Value} (h : engine.call poor program name args = .ok v) :
    engine.call rich program name args = .ok v := by
  cases hfound : sem.definition? program ⟨name, args.length⟩ with
  | none => exact nomatch (hevaluates.call_of_none hprogram hfound).symm.trans h
  | some d =>
    rw [hevaluates.call_of_some hprogram hfound] at h ⊢
    exact outcome_of_covers hcovers h

section

variable (hlimits : sem.LimitsOperations)
include hlimits

theorem limit_withMaxOperations (maxOperations : Option Nat) :
    sem.limit (engine.withMaxOperations maxOperations) = maxOperations.getD 0 := by
  cases maxOperations with
  | none => exact hlimits.limit_new
  | some limit => exact hlimits.limit_setMaxOperations limit engine.new

theorem compile_withMaxOperations (maxOperations : Option Nat) :
    engine.compile (engine.withMaxOperations maxOperations) = engine.compile engine.new := by
  cases maxOperations with
  | none => rfl
  | some limit => exact hlimits.compile_setMaxOperations limit engine.new

/-- A budget other than zero is covered by every higher one and by none at all. -/
theorem covers_withMaxOperations {budget : Nat} {more : Option Nat} (hbudget : budget ≠ 0)
    (hmore : ∀ n, more = some n → budget ≤ n) :
    Covers (sem.limit (engine.withMaxOperations more))
      (sem.limit (engine.withMaxOperations (some budget))) := by
  rw [limit_withMaxOperations hlimits, limit_withMaxOperations hlimits]
  refine covers_of_le hbudget fun hsome => ?_
  cases more with
  | none => exact absurd rfl hsome
  | some n => exact hmore n rfl

end

end Semantics

namespace Host

variable {sem : Semantics engine}

/-- The budget plays no part in loads. -/
theorem load_withMaxOperations (hlimits : sem.LimitsOperations) (more less : Option Nat) :
    (embedding engine (engine.withMaxOperations more)).load =
      (embedding engine (engine.withMaxOperations less)).load := by
  funext source program
  simp only [embedding, Semantics.compile_withMaxOperations hlimits]

section

variable (hevaluates : sem.EvaluatesCalls) {rich poor : engine.Config}
  (hcovers : Semantics.Covers (sem.limit rich) (sem.limit poor)) {program : engine.Program}
include hevaluates hcovers

theorem call_of_covers (hprogram : sem.OnlyFunctions program) {name : String}
    {args : List Json} {v : Json} (h : ((embedding engine poor).call name args program).1 = .ok v) :
    ((embedding engine rich).call name args program).1 = .ok v := by
  simp only [embedding] at h ⊢
  cases hvalues : args.mapM engine.toValue with
  | error words =>
    rw [hvalues] at h
    cases h
  | ok values =>
    simp only [hvalues, mapError_ok, bind, Except.bind] at h ⊢
    cases hcall : engine.call poor program name values with
    | error words =>
      rw [hcall] at h
      cases h
    | ok result =>
      rw [hcall] at h
      rw [Semantics.call_of_covers hevaluates hcovers hprogram hcall]
      exact h

/-- A call right behind a load that has a value has it where its engine affords as much. -/
theorem loadThenCall_of_covers (hkeeps : sem.KeepsDefinitions)
    (hload : (embedding engine rich).load = (embedding engine poor).load)
    (hprogram : sem.OnlyFunctions program) {source name : String} {args : List Json} {v : Json}
    (h : ((embedding engine poor).loadThenCall source name args program).1 = .ok v) :
    ((embedding engine rich).loadThenCall source name args program).1 = .ok v := by
  have hfunctions := @onlyFunctions_load _ sem poor program hkeeps source hprogram
  unfold loadThenCall at h ⊢
  rw [hload]
  split at h <;> rename_i hloaded <;> rw [hloaded] at hfunctions
  · exact call_of_covers hevaluates hcovers hfunctions h
  · cases h

end

end Host

end Switchboard.Script
