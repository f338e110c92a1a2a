import Mathlib.Logic.Relation
import Switchboard.Script.Engine

/-!
# What an engine is taken to do

The engine of a host is code of others, so what is proved about hosts rests on what its
documentation says.  A semantics puts names to the parts of this: the definitions that a
program holds, and evaluations that go on step by step.  An evaluation takes operations and
looks functions up; all else that it does stays within its state.  What the documentation
says about these parts is stated as laws, so that a theorem can name the ones it needs.

## Main definitions

* `Semantics`: the parts of what programs and calls mean.
* `Semantics.Ends`: how an evaluation ends.
* `Semantics.LooksUp`: what an evaluation looks up.
* `Semantics.KeepsDefinitions`, `Semantics.EvaluatesCalls`, `Semantics.CallsByName`,
  `Semantics.LimitsOperations`: the laws.

## Main statements

* `Semantics.outcome_congr`: an evaluation depends on the definitions that it looks up.
* `Semantics.call_congr`: so does a call.
* `Semantics.looksUp_within`: which functions are looked up by names that stand in scripts.
-/

namespace Switchboard.Script

/-- What an evaluation does next. -/
inductive Move (δ σ α : Type) where
  | ends (result : Except String α)
  /-- It takes an operation; if there is none left, it ends with an error in words. -/
  | operation (next : σ) (words : String)
  /-- It goes on by the definition of a function, if there is one. -/
  | lookUp (naming : Naming) (callee : Callee) (next : Option δ → σ)

/-- What the programs and the calls of an engine mean. -/
structure Semantics (engine : Engine) where
  Definition : Type
  definition? : engine.Program → Callee → Option Definition
  /-- Nothing stands outside the functions of a program. -/
  OnlyFunctions : engine.Program → Prop
  /-- The functions that the body of a definition calls by their names. -/
  callees : Definition → List Callee
  /-- How many operations a call may take; zero stands for any number. -/
  limit : engine.Config → Nat
  /-- What is left of an evaluation. -/
  State : Type
  /-- The evaluation of a function that is called with values. -/
  start : Definition → List engine.Value → State
  next : State → Move Definition State engine.Value
  /-- The error for a function that is called and not defined. -/
  missing : String → String
  /-- The error that stands for a call without an end. -/
  unending : String

namespace Semantics

variable {engine : Engine} (sem : Semantics engine)

/-- A way to find definitions. -/
abbrev Finder : Type :=
  Callee → Option sem.Definition

/-! ## Evaluations -/

/-- Where an evaluation stands: the operations that it has taken and what is left of it. -/
structure Point where
  spent : Nat
  state : sem.State

/-- Whether so many operations may be taken. -/
def Affords (limit operations : Nat) : Prop :=
  limit = 0 ∨ operations ≤ limit

instance (limit operations : Nat) : Decidable (Affords limit operations) :=
  inferInstanceAs (Decidable (_ ∨ _))

/-- How an evaluation goes on from a point, or with what it ends there. -/
def step (find : sem.Finder) (limit : Nat) (point : sem.Point) :
    Except String engine.Value ⊕ sem.Point :=
  match sem.next point.state with
  | .ends result => .inl result
  | .operation next words =>
    if Affords limit (point.spent + 1) then .inr ⟨point.spent + 1, next⟩
    else .inl (.error words)
  | .lookUp _ callee next => .inr ⟨point.spent, next (find callee)⟩

/-- How an evaluation ends from a point on. -/
inductive Ends (find : sem.Finder) (limit : Nat) :
    sem.Point → Except String engine.Value → Prop
  | last {point : sem.Point} {result : Except String engine.Value}
      (h : sem.step find limit point = .inl result) : Ends find limit point result
  | step {point next : sem.Point} {result : Except String engine.Value}
      (h : sem.step find limit point = .inr next) (hrest : Ends find limit next result) :
      Ends find limit point result

/-- An evaluation comes from one point to another. -/
def Reaches (find : sem.Finder) (limit : Nat) : sem.Point → sem.Point → Prop :=
  Relation.ReflTransGen fun point next => sem.step find limit point = .inr next

/-- From a point on, an evaluation looks a function up. -/
def LooksUp (find : sem.Finder) (limit : Nat) (point : sem.Point) (naming : Naming)
    (callee : Callee) : Prop :=
  ∃ here next, sem.Reaches find limit point here ∧
    sem.next here.state = .lookUp naming callee next

open Classical in
/-- What comes of an evaluation from the start. -/
noncomputable def outcome (find : sem.Finder) (limit : Nat) (state : sem.State) :
    Except String engine.Value :=
  if h : ∃ result, sem.Ends find limit ⟨0, state⟩ result then h.choose
  else .error sem.unending

/-- A call looks a function up: the one called, or one in the evaluation of that. -/
inductive CallLooksUp (config : engine.Config) (program : engine.Program) (name : String)
    (args : List engine.Value) : Naming → Callee → Prop
  | entry : CallLooksUp config program name args .written ⟨name, args.length⟩
  | inner {d : sem.Definition} {naming : Naming} {callee : Callee}
      (hfound : sem.definition? program ⟨name, args.length⟩ = some d)
      (hlooks : sem.LooksUp (sem.definition? program) (sem.limit config)
        ⟨0, sem.start d args⟩ naming callee) :
      CallLooksUp config program name args naming callee

/-! ## Laws -/

/-- Programs hold definitions, one for each function.  Dropping what stands outside the
functions drops no definition, and of two definitions the one merged in later stays. -/
structure KeepsDefinitions : Prop where
  definition?_empty : ∀ callee, sem.definition? engine.empty callee = none
  definition?_functionsOnly : ∀ program callee,
    sem.definition? (engine.functionsOnly program) callee = sem.definition? program callee
  definition?_merge : ∀ program other callee, sem.definition? (engine.merge program other) callee =
    (sem.definition? other callee).or (sem.definition? program callee)
  onlyFunctions_empty : sem.OnlyFunctions engine.empty
  onlyFunctions_functionsOnly : ∀ program, sem.OnlyFunctions (engine.functionsOnly program)
  onlyFunctions_merge : ∀ program other, sem.OnlyFunctions program → sem.OnlyFunctions other →
    sem.OnlyFunctions (engine.merge program other)

/-- To call a function is to look it up by its name and the number of arguments and to
evaluate its definition, where functions are looked up in the program and the operations are
counted from zero. -/
structure EvaluatesCalls : Prop where
  call_of_none : ∀ {config program name args}, sem.OnlyFunctions program →
    sem.definition? program ⟨name, args.length⟩ = none →
    engine.call config program name args = .error (sem.missing name)
  call_of_some : ∀ {config program name args d}, sem.OnlyFunctions program →
    sem.definition? program ⟨name, args.length⟩ = some d →
    engine.call config program name args =
      sem.outcome (sem.definition? program) (sem.limit config) (sem.start d args)

/-- What holds along an evaluation in which all definitions call by their names only
functions from among some: the evaluation does the same. -/
structure Confined (P : Callee → Prop) (I : sem.State → Prop) : Prop where
  operation : ∀ {state next words}, I state → sem.next state = .operation next words → I next
  written : ∀ {state callee next}, I state → sem.next state = .lookUp .written callee next →
    P callee
  missed : ∀ {state naming callee next}, I state →
    sem.next state = .lookUp naming callee next → I (next none)
  found : ∀ {state naming callee next d}, I state →
    sem.next state = .lookUp naming callee next → (∀ inner ∈ sem.callees d, P inner) →
    I (next (some d))

/-- The names of functions that stand in a script are those in the bodies of its functions:
an evaluation looks functions up by the names in the bodies of the functions that it has
entered, and otherwise by what values tell it. -/
structure CallsByName : Prop where
  exists_confined : ∀ (P : Callee → Prop) (d : sem.Definition) (args : List engine.Value),
    (∀ callee ∈ sem.callees d, P callee) → ∃ I, sem.Confined P I ∧ I (sem.start d args)

/-- There is no limit to the operations of a call unless one is set, and to set one changes
nothing but the limit. -/
structure LimitsOperations : Prop where
  limit_new : sem.limit engine.new = 0
  limit_setMaxOperations : ∀ limit config,
    sem.limit (engine.setMaxOperations limit config) = limit
  compile_setMaxOperations : ∀ limit config,
    engine.compile (engine.setMaxOperations limit config) = engine.compile config

/-! ## How evaluations end -/

variable {sem} {find find' : sem.Finder} {limit : Nat} {point : sem.Point}

theorem Ends.unique {result result' : Except String engine.Value}
    (h : sem.Ends find limit point result) (h' : sem.Ends find limit point result') :
    result = result' := by
  induction h with
  | last hlast =>
    cases h' with
    | last hlast' => exact Sum.inl.inj (hlast.symm.trans hlast')
    | step hstep' _ => exact nomatch hlast.symm.trans hstep'
  | step hstep _ ih =>
    cases h' with
    | last hlast' => exact nomatch hstep.symm.trans hlast'
    | step hstep' hrest' =>
      obtain rfl := Sum.inr.inj (hstep.symm.trans hstep')
      exact ih hrest'

theorem outcome_of_ends {state : sem.State} {result : Except String engine.Value}
    (h : sem.Ends find limit ⟨0, state⟩ result) : sem.outcome find limit state = result := by
  have hends : ∃ result, sem.Ends find limit ⟨0, state⟩ result := ⟨result, h⟩
  rw [outcome, dif_pos hends]
  exact hends.choose_spec.unique h

theorem ends_of_outcome {state : sem.State} {v : engine.Value}
    (h : sem.outcome find limit state = .ok v) : sem.Ends find limit ⟨0, state⟩ (.ok v) := by
  unfold outcome at h
  split at h
  · rename_i hends
    exact h ▸ hends.choose_spec
  · cases h

/-! ## What evaluations depend on -/

theorem LooksUp.of_step {next : sem.Point} {naming : Naming} {callee : Callee}
    (h : sem.step find limit point = .inr next)
    (hrest : sem.LooksUp find limit next naming callee) :
    sem.LooksUp find limit point naming callee := by
  obtain ⟨here, k, hreaches, hnext⟩ := hrest
  exact ⟨here, k, .head h hreaches, hnext⟩

/-- The tables agree on all that is looked up from a point on. -/
def Agree (find find' : sem.Finder) (limit : Nat) (point : sem.Point) : Prop :=
  ∀ naming callee, sem.LooksUp find limit point naming callee → find callee = find' callee

theorem Agree.of_step {next : sem.Point} (hagree : Agree find find' limit point)
    (h : sem.step find limit point = .inr next) : Agree find find' limit next :=
  fun naming callee hlooks => hagree naming callee (.of_step h hlooks)

theorem Agree.step_eq (hagree : Agree find find' limit point) :
    sem.step find limit point = sem.step find' limit point := by
  unfold step
  split
  · rfl
  · rfl
  · rename_i naming callee next hnext
    rw [hagree naming callee ⟨point, next, .refl, hnext⟩]

theorem Ends.congr {result : Except String engine.Value} (h : sem.Ends find limit point result)
    (hagree : Agree find find' limit point) : sem.Ends find' limit point result := by
  induction h with
  | last hlast => exact .last (hagree.step_eq ▸ hlast)
  | step hstep _ ih => exact .step (hagree.step_eq ▸ hstep) (ih (hagree.of_step hstep))

/-- Tables that agree on all that is looked up in one of them are asked for the same: the way
under the other one is the way under this one. -/
theorem Agree.looksUp (hagree : Agree find find' limit point) {naming : Naming} {callee : Callee}
    (h : sem.LooksUp find' limit point naming callee) :
    sem.LooksUp find limit point naming callee := by
  obtain ⟨here, k, hreaches, hnext⟩ := h
  induction hreaches using Relation.ReflTransGen.head_induction_on with
  | refl => exact ⟨here, k, .refl, hnext⟩
  | head hstep _ ih =>
    have hstep' := hagree.step_eq.trans hstep
    exact .of_step hstep' (ih (hagree.of_step hstep'))

theorem Agree.symm (hagree : Agree find find' limit point) : Agree find' find limit point :=
  fun naming callee hlooks => (hagree naming callee (hagree.looksUp hlooks)).symm

/-- An evaluation depends on the definitions that it looks up. -/
theorem outcome_congr {state : sem.State} (hagree : Agree find find' limit ⟨0, state⟩) :
    sem.outcome find limit state = sem.outcome find' limit state := by
  by_cases h : ∃ result, sem.Ends find limit ⟨0, state⟩ result
  · obtain ⟨result, hends⟩ := h
    rw [outcome_of_ends hends, outcome_of_ends (hends.congr hagree)]
  · have h' : ¬ ∃ result, sem.Ends find' limit ⟨0, state⟩ result :=
      fun ⟨result, hends⟩ => h ⟨result, hends.congr hagree.symm⟩
    rw [outcome, dif_neg h, outcome, dif_neg h']

/-- A call depends on the definitions that it looks up. -/
theorem call_congr (hevaluates : sem.EvaluatesCalls) {config : engine.Config}
    {program other : engine.Program} {name : String} {args : List engine.Value}
    (hprogram : sem.OnlyFunctions program) (hother : sem.OnlyFunctions other)
    (h : ∀ naming callee, sem.CallLooksUp config program name args naming callee →
      sem.definition? program callee = sem.definition? other callee) :
    engine.call config program name args = engine.call config other name args := by
  have hentry := h _ _ .entry
  cases hfound : sem.definition? program ⟨name, args.length⟩ with
  | none =>
    rw [hevaluates.call_of_none hprogram hfound,
      hevaluates.call_of_none hother (hentry.symm.trans hfound)]
  | some d =>
    rw [hevaluates.call_of_some hprogram hfound,
      hevaluates.call_of_some hother (hentry.symm.trans hfound)]
    exact outcome_congr fun naming callee hlooks => h naming callee (.inner hfound hlooks)

/-- Programs that agree on all that a call looks up in one of them are asked for the same. -/
theorem CallLooksUp.of_agree {config : engine.Config} {program other : engine.Program}
    {name : String} {args : List engine.Value}
    (h : ∀ naming callee, sem.CallLooksUp config program name args naming callee →
      sem.definition? program callee = sem.definition? other callee)
    {naming : Naming} {callee : Callee}
    (hlooks : sem.CallLooksUp config other name args naming callee) :
    sem.CallLooksUp config program name args naming callee := by
  cases hlooks with
  | entry => exact .entry
  | @inner d _ _ hfound hlooks =>
    have hfound' := (h _ _ .entry).trans hfound
    have hagree : Agree (sem.definition? program) (sem.definition? other) (sem.limit config)
        ⟨0, sem.start d args⟩ := fun naming callee hinner => h naming callee (.inner hfound' hinner)
    exact .inner hfound' (hagree.looksUp hlooks)

/-! ## Names that stand in scripts -/

/-- One step within what confines an evaluation, if all that is found is confined. -/
theorem Confined.step {P : Callee → Prop} {I : sem.State → Prop} (hI : sem.Confined P I)
    (hfind : ∀ callee d, find callee = some d → ∀ inner ∈ sem.callees d, P inner)
    {next : sem.Point} (h : sem.step find limit point = .inr next) (hpoint : I point.state) :
    I next.state := by
  unfold Semantics.step at h
  split at h
  · cases h
  · rename_i state words hnext
    split at h
    · cases h
      exact hI.operation hpoint hnext
    · cases h
  · rename_i naming callee k hnext
    cases h
    cases hd : find callee with
    | none => exact hI.missed hpoint hnext
    | some d => exact hI.found hpoint hnext (hfind callee d hd)

/-- By the names in scripts no other functions are looked up than those that the bodies of
the definitions call. -/
theorem looksUp_within (hnames : sem.CallsByName) {P : Callee → Prop}
    (hfind : ∀ callee d, find callee = some d → ∀ inner ∈ sem.callees d, P inner)
    {d : sem.Definition} (hd : ∀ inner ∈ sem.callees d, P inner) {args : List engine.Value}
    {callee : Callee} (h : sem.LooksUp find limit ⟨0, sem.start d args⟩ .written callee) :
    P callee := by
  obtain ⟨I, hI, hstart⟩ := hnames.exists_confined P d args hd
  obtain ⟨here, k, hreaches, hnext⟩ := h
  have hhere : I here.state := by
    clear hnext
    induction hreaches with
    | refl => exact hstart
    | tail _ hstep ih => exact hI.step hfind hstep ih
  exact hI.written hhere hnext

end Semantics

end Switchboard.Script
