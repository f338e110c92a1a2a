import Switchboard.Proofs.Native.Arguments
import Switchboard.Proofs.Text.Trimming
import Switchboard.Service.Returned

/-!
# What a function may return

A declaration names one type at most: nothing, if it is absent, blank or `void`,
and else the kind whose list of names has its last part.  A function that is
declared to return nothing returns `null`, and any other one a value of the kind
that it is declared with.

## Main definitions

* `Declaration.Names`: what a declaration names.
* `Declaration.Allows`: the values that go with it.

## Main statements

* `Declaration.ofName?_eq_some_iff`: the look-up of a declaration.
* `checkReturned_eq_ok_iff`: which results pass the check.
* `checkReturned_cases`: the three ways in which a check ends.
-/

namespace Switchboard

/-! ## Names of kinds -/

namespace Kind

/-- No two kinds share a name. -/
theorem eq_of_mem_typeNames {kind other : Kind} {name : String} (h : name ∈ kind.typeNames)
    (h' : name ∈ other.typeNames) : kind = other := by
  have hapart : ∀ kind ∈ all, ∀ other ∈ all, ∀ name ∈ kind.typeNames,
      name ∈ other.typeNames → kind = other := by decide +kernel
  exact hapart kind (by cases kind <;> decide) other (by cases other <;> decide) name h h'

/-- A type name means the kind that has its last part among its names. -/
@[simp] theorem ofTypeName?_eq_some_iff {name : String} {kind : Kind} :
    ofTypeName? name = some kind ↔ simpleName name ∈ kind.typeNames := by
  have hmem : ∀ {other : Kind}, ofTypeName? name = some other →
      simpleName name ∈ other.typeNames := fun {other} h =>
    List.contains_iff_mem.1
      (@List.find?_some Kind (fun kind => kind.typeNames.contains (simpleName name)) _ _ h)
  constructor
  · exact hmem
  · intro h
    cases hfind : ofTypeName? name with
    | none =>
      have hall : kind ∈ all := by cases kind <;> decide
      exact absurd (List.contains_iff_mem.2 h) (List.find?_eq_none.1 hfind kind hall)
    | some other => rw [eq_of_mem_typeNames h (hmem hfind)]

end Kind

/-! ## Declarations -/

namespace Declaration

/-- What a declaration names. -/
inductive Names : Option String → Declaration → Prop
  | absent : Names none .void
  | blank {name : String} (h : ∀ c ∈ name.toList, Text.isBlank c = true) : Names (some name) .void
  | void {name : String} (h : Text.trim name = "void" ∨ Text.trim name = "Void") :
      Names (some name) .void
  /-- The part behind the last dot is a name of the kind. -/
  | kind {name : String} {kind : Kind} (h : Kind.simpleName (Text.trim name) ∈ kind.typeNames) :
      Names (some name) (.kind kind)

/-- The names for nothing are no names of a kind. -/
theorem not_mem_typeNames_of_void {name : String} (h : name = "" ∨ name = "void" ∨ name = "Void")
    (kind : Kind) : Kind.simpleName name ∉ kind.typeNames := by
  rcases h with rfl | rfl | rfl <;> cases kind <;> decide +kernel

@[simp] theorem ofName?_eq_some_iff {declared : Option String} {d : Declaration} :
    ofName? declared = some d ↔ Names declared d := by
  cases declared with
  | none =>
    constructor
    · rintro ⟨⟩
      exact .absent
    · rintro ⟨⟩
      rfl
  | some name =>
    by_cases hvoid : Text.trim name = "" ∨ Text.trim name = "void" ∨ Text.trim name = "Void"
    · rw [ofName?, if_pos hvoid]
      constructor
      · rintro ⟨⟩
        rcases hvoid with hblank | hvoid
        · exact .blank (Text.trim_eq_empty_iff.1 hblank)
        · exact .void hvoid
      · intro h
        cases h with
        | blank _ => rfl
        | void _ => rfl
        | kind h => exact absurd h (not_mem_typeNames_of_void hvoid _)
    · rw [ofName?, if_neg hvoid]
      constructor
      · intro h
        obtain ⟨named, hnamed, rfl⟩ := Option.map_eq_some_iff.1 h
        exact .kind (Kind.ofTypeName?_eq_some_iff.1 hnamed)
      · intro h
        cases h with
        | blank h => exact absurd (Or.inl (Text.trim_eq_empty_iff.2 h)) hvoid
        | void h => exact absurd (Or.inr h) hvoid
        | kind h => rw [Kind.ofTypeName?_eq_some_iff.2 h, Option.map_some]

theorem Names.ofName?_eq {declared : Option String} {d : Declaration} (h : Names declared d) :
    ofName? declared = some d :=
  ofName?_eq_some_iff.2 h

theorem Names.unique {declared : Option String} {d d' : Declaration} (h : Names declared d)
    (h' : Names declared d') : d = d' :=
  Option.some.inj (h.ofName?_eq.symm.trans h'.ofName?_eq)

/-- The values that go with a declaration: `null` if nothing is returned, and
else any other value of its kind. -/
def Allows : Declaration → Json → Prop
  | .void, v => v = .null
  | .kind k, v => v ≠ .null ∧ k.Takes v

end Declaration

/-- A result passes the check if its function is declared to return something
known that the result goes with. -/
@[simp] theorem checkReturned_eq_ok_iff {function : String} {v : Json} {declared : Option String} :
    checkReturned function v declared = .ok () ↔ ∃ d, Declaration.Names declared d ∧ d.Allows v := by
  have haccepts : ∀ kind : Kind, kind.accepts (Kind.of v) = true ↔ kind.Takes v := by
    intro kind
    rw [Kind.accepts, Bool.or_eq_true, beq_iff_eq, beq_iff_eq, Kind.Takes]
  simp only [← Declaration.ofName?_eq_some_iff]
  cases hdeclared : Declaration.ofName? declared with
  | none => cases v <;> simp [checkReturned, hdeclared]
  | some d =>
    cases d with
    | void => cases v <;> simp [checkReturned, hdeclared, Declaration.Allows]
    | kind kind =>
      by_cases hnull : v = .null
      · subst hnull
        simp [checkReturned, hdeclared, Declaration.Allows]
      · simp [checkReturned, hdeclared, Declaration.Allows, hnull, haccepts]

/-- A result goes with its declaration, or the declaration names nothing known and
there is a value, or the two do not go together. -/
theorem checkReturned_cases (function : String) (v : Json) (declared : Option String) :
    (∃ d, Declaration.Names declared d ∧ d.Allows v) ∧ checkReturned function v declared = .ok () ∨
      (Declaration.ofName? declared = none ∧ v ≠ .null ∧ checkReturned function v declared =
        .error (.unresolvable function ((declared.map Text.trim).getD ""))) ∨
      (Declaration.ofName? declared = none ∧ v = .null ∨
          ∃ d, Declaration.Names declared d ∧ ¬ d.Allows v) ∧
        ∃ actual type,
          checkReturned function v declared = .error (.mismatch function actual type) := by
  by_cases hpasses : ∃ d, Declaration.Names declared d ∧ d.Allows v
  · exact Or.inl ⟨hpasses, checkReturned_eq_ok_iff.2 hpasses⟩
  refine Or.inr ?_
  cases hdeclared : Declaration.ofName? declared with
  | none =>
    by_cases hnull : v = .null
    · refine Or.inr ⟨Or.inl ⟨rfl, hnull⟩, Declaration.void.typeName,
        (declared.map Text.trim).getD "", ?_⟩
      simp [checkReturned, hdeclared, hnull]
    · exact Or.inl ⟨rfl, hnull, by simp [checkReturned, hdeclared]⟩
  | some d =>
    have hnames := Declaration.ofName?_eq_some_iff.1 hdeclared
    have hfails : checkReturned function v declared ≠ .ok () :=
      fun hok => hpasses (checkReturned_eq_ok_iff.1 hok)
    refine Or.inr ⟨Or.inr ⟨d, hnames, fun hallows => hpasses ⟨d, hnames, hallows⟩⟩, ?_⟩
    unfold checkReturned at hfails ⊢
    rw [hdeclared] at hfails ⊢
    split at hfails <;> simp_all

end Switchboard
