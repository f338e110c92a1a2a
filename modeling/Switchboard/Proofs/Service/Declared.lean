import Switchboard.Proofs.Registry.Violations
import Switchboard.Proofs.Service.Outcome
import Switchboard.Proofs.Service.Returns
import Switchboard.Proofs.Text.Pieces

/-!
# Declarations that name no type, and names with a package

A declaration that names no type is at fault whatever the function returns, but a
check of `null` looks at the declaration only to see whether anything is declared.
So the fault of the declaration comes up with every result except `null`.

The package in front of a type name is left out of account where the name means a
kind.  The names for nothing are compared as a whole, so with a package they mean
nothing that is known.

## Main definitions

* `Entry.declaring`: an entry with another declaration.

## Main statements

* `Declaration.ofName?_qualified`: what a name with a package means.
* `checkReturned_eq_unresolvable_iff`: when a check finds fault with the declaration.
-/

namespace Switchboard

/-! ## Names with a package -/

namespace Kind

theorem ofTypeName?_congr {name name' : String} (h : simpleName name = simpleName name') :
    ofTypeName? name = ofTypeName? name' := by
  rw [ofTypeName?, ofTypeName?, h]

/-- A package in front of a name changes nothing behind the last dot. -/
@[simp] theorem simpleName_qualified (package name : String) :
    simpleName (package ++ "." ++ name) = simpleName name := by
  simp [simpleName]

/-- Blanks around a name do not count. -/
@[simp] theorem simpleName_trim (name : String) :
    simpleName (Text.trim name) = simpleName name := by
  obtain ⟨before, after, hname, hbefore, hafter⟩ := (Text.trimsTo_trimChars name.toList).within
  have hplain : ∀ {cs : List Char}, (∀ c ∈ cs, Text.isBlank c = true) → '.' ∉ cs :=
    fun h hdot => absurd (h '.' hdot) (by decide)
  simp only [simpleName, Text.trim, String.toList_ofList]
  conv_rhs => rw [hname, Text.reverse_takeWhile_between (hplain hbefore) (hplain hafter)]
  split
  · exact congrArg String.ofList
      (Text.trimChars_between_blanks (List.forall_mem_nil _) hafter).symm
  · exact congrArg String.ofList (Text.trimChars_between_blanks hbefore hafter).symm

/-- A package and blanks around a name make no difference to the kind that it means. -/
@[simp] theorem ofTypeName?_trim (name : String) :
    ofTypeName? (Text.trim name) = ofTypeName? name :=
  ofTypeName?_congr (simpleName_trim name)

end Kind

namespace Declaration

/-- A name with a package means the kind that the name means, and else nothing known. -/
theorem ofName?_qualified (package name : String) :
    ofName? (some (package ++ "." ++ name)) = (Kind.ofTypeName? name).map kind := by
  have hdot : '.' ∈ (Text.trim (package ++ "." ++ name)).toList := by
    rw [Text.trim, String.toList_ofList]
    exact Text.mem_trimChars (by simp [String.toList_append]) (by decide)
  have hsome : ¬ (Text.trim (package ++ "." ++ name) = "" ∨
      Text.trim (package ++ "." ++ name) = "void" ∨
      Text.trim (package ++ "." ++ name) = "Void") := by
    rintro (h | h | h) <;> exact absurd (h ▸ hdot) (by decide)
  rw [ofName?, if_neg hsome, Kind.ofTypeName?_trim,
    Kind.ofTypeName?_congr (Kind.simpleName_qualified package name)]

/-- A name means nothing, and then no kind, or the kind of its last part. -/
theorem ofName?_cases {name : String} {d : Declaration} (h : ofName? (some name) = some d) :
    d = .void ∧ Kind.ofTypeName? name = none ∨
      ∃ k, d = .kind k ∧ Kind.ofTypeName? name = some k := by
  by_cases hvoid : Text.trim name = "" ∨ Text.trim name = "void" ∨ Text.trim name = "Void"
  · rw [ofName?, if_pos hvoid] at h
    refine Or.inl ⟨(Option.some.inj h).symm, ?_⟩
    rw [← Kind.ofTypeName?_trim]
    refine Option.eq_none_iff_forall_ne_some.2 fun k hk => ?_
    exact not_mem_typeNames_of_void hvoid k (Kind.ofTypeName?_eq_some_iff.1 hk)
  · rw [ofName?, if_neg hvoid, Kind.ofTypeName?_trim] at h
    obtain ⟨k, hk, rfl⟩ := Option.map_eq_some_iff.1 h
    exact Or.inr ⟨k, rfl, hk⟩

end Declaration

/-! ## How a check ends -/

/-- The fault of a declaration comes up with every value except `null`. -/
theorem checkReturned_eq_unresolvable_iff {function : String} {v : Json}
    {declared : Option String} :
    checkReturned function v declared =
        .error (.unresolvable function ((declared.map Text.trim).getD "")) ↔
      Declaration.ofName? declared = none ∧ v ≠ .null := by
  rcases checkReturned_cases function v declared with
    ⟨⟨d, hnames, -⟩, hok⟩ | ⟨hnone, hvalue, herr⟩ | ⟨hapart, actual, type, herr⟩
  · rw [hok, hnames.ofName?_eq]
    exact iff_of_false nofun nofun
  · exact iff_of_true herr ⟨hnone, hvalue⟩
  · rw [herr]
    refine iff_of_false nofun fun h => ?_
    rcases hapart with ⟨-, hnull⟩ | ⟨d, hnames, -⟩
    · exact h.2 hnull
    · exact nomatch h.1.symm.trans hnames.ofName?_eq

/-- A result is at fault itself if it does not go with what its function is declared
to return, or if it is `null` and the declaration names nothing known. -/
theorem checkReturned_eq_mismatch_iff {function : String} {v : Json} {declared : Option String} :
    (∃ actual type, checkReturned function v declared = .error (.mismatch function actual type)) ↔
      Declaration.ofName? declared = none ∧ v = .null ∨
        ∃ d, Declaration.Names declared d ∧ ¬ d.Allows v := by
  rcases checkReturned_cases function v declared with
    ⟨⟨d, hnames, hallows⟩, hok⟩ | ⟨hnone, hvalue, herr⟩ | ⟨hapart, herr⟩
  · simp only [hok, reduceCtorEq, exists_const, false_iff]
    rintro (⟨hnone, -⟩ | ⟨d', hnames', hturned⟩)
    · exact nomatch hnone.symm.trans hnames.ofName?_eq
    · exact hturned (hnames.unique hnames' ▸ hallows)
  · simp only [herr, Except.error.injEq, reduceCtorEq, exists_const, false_iff]
    rintro (⟨-, hnull⟩ | ⟨d, hnames, -⟩)
    · exact hvalue hnull
    · exact nomatch hnone.symm.trans hnames.ofName?_eq
  · exact iff_of_true herr hapart

/-- Declarations that mean the same are checked alike, but for the name that is shown. -/
theorem failureClass_checkReturned_congr {declared declared' : Option String}
    (h : Declaration.ofName? declared = Declaration.ofName? declared') (function : String)
    (v : Json) :
    (checkReturned function v declared).mapError ReturnFault.failureClass =
      (checkReturned function v declared').mapError ReturnFault.failureClass := by
  unfold checkReturned
  rw [h]
  dsimp only
  split <;> rfl

/-! ## Entries and their declarations -/

namespace Entry

/-- The entry with another declaration of what its function returns. -/
def declaring (entry : Entry) (name : String) : Entry :=
  { entry with returns := some name }

/-- A declaration that means something plays no part in what is wrong with an entry. -/
theorem violations_declaring {entry : Entry} {name : String} {d : Declaration}
    (h : Declaration.ofName? (some name) = some d) (label : String) :
    violations label (entry.declaring name) =
      (if Text.isName label then [] else [.invalidName]) ++ entry.executionViolations ++
        entry.methodViolations := by
  have hreturn : (entry.declaring name).returnViolations = [] := by
    simp only [returnViolations, declaring, h]
  rw [violations, hreturn, List.append_nil]
  rfl

end Entry

/-- The standard settings, but with results checked. -/
def Settings.strict : Settings :=
  { standard with strictReturns := true }

namespace Service

variable {settings : Settings} {registry : Registry} {name : String} {entry : Entry}

theorem checkResult_eq_error_iff (hstrict : settings.strictReturns = true) {function : String}
    {v : Json} {fault : ReturnFault} :
    checkResult settings function entry v = .error (.returned fault) ↔
      checkReturned function v entry.returns = .error fault := by
  rcases checkResult_cases settings function entry v with
    ⟨hpasses, hchecked⟩ | ⟨-, found, hfound, hchecked⟩
  · rw [hchecked, hpasses hstrict]
    exact iff_of_false nofun nofun
  · rw [hchecked, hfound, Except.error.injEq, CallError.returned.injEq, Except.error.injEq]

/-- Declarations that mean the same are checked alike, whether results are checked or not. -/
theorem failureClass_checkResult_congr {name' : String}
    (h : Declaration.ofName? (some name) = Declaration.ofName? (some name')) (function : String)
    (v : Json) :
    (checkResult settings function (entry.declaring name) v).mapError CallError.failureClass =
      (checkResult settings function (entry.declaring name') v).mapError
        CallError.failureClass := by
  have hclass := failureClass_checkReturned_congr h function v
  cases hstrict : settings.strictReturns with
  | false => simp [checkResult, hstrict]
  | true =>
    simp only [checkResult, hstrict, if_true, Entry.declaring]
    cases hchecked : checkReturned function v (some name) <;>
      cases hchecked' : checkReturned function v (some name') <;>
      simp_all [Except.mapError, CallError.failureClass]

/-- An entry is reported to declare a type that is not known exactly if its
declaration names none.  A strict check then finds fault with the declaration,
whatever the value is that the function returned; only `null` it takes for a result
that does not go with the declaration.  Other results it turns down exactly if the
declaration names something that they do not go with. -/
theorem checkResult_of_reported (hget : registry.get? name = some entry)
    (hstrict : settings.strictReturns = true) (function : String) (v : Json) :
    (registry.Reports "registry_unresolvable_return_type"
        ("functions." ++ name ++ ".declaredReturnType") ↔
      Declaration.ofName? entry.returns = none) ∧
    (checkResult settings function entry v = .error (.returned
        (.unresolvable function ((entry.returns.map Text.trim).getD ""))) ↔
      Declaration.ofName? entry.returns = none ∧ v ≠ .null) ∧
    ((∃ actual type, checkResult settings function entry v =
        .error (.returned (.mismatch function actual type))) ↔
      Declaration.ofName? entry.returns = none ∧ v = .null ∨
        ∃ d, Declaration.Names entry.returns d ∧ ¬ d.Allows v) := by
  simp only [checkResult_eq_error_iff hstrict, checkReturned_eq_unresolvable_iff,
    checkReturned_eq_mismatch_iff, Registry.reports_unresolvableReturnType_iff hget, true_and]

/-- A function that is declared to return something that is not known. -/
def widgets : Registry :=
  Dict.ofList [("next", Entry.native.declaring "Widget")]

/-- Of an entry that declares an unknown type, a number shows the fault and `null` does not. -/
theorem checkResult_of_reported_widget :
    widgets.get? "next" = some (Entry.native.declaring "Widget") ∧
      Settings.strict.strictReturns = true ∧
      widgets.Reports "registry_unresolvable_return_type" "functions.next.declaredReturnType" ∧
      checkResult .strict "next" (Entry.native.declaring "Widget") (.int 1) =
        .error (.returned (.unresolvable "next" "Widget")) ∧
      ∃ actual type, checkResult .strict "next" (Entry.native.declaring "Widget") .null =
        .error (.returned (.mismatch "next" actual type)) := by
  have hget : widgets.get? "next" = some (Entry.native.declaring "Widget") := rfl
  have hunknown : Declaration.ofName? (some "Widget") = none := by decide +kernel
  obtain ⟨hreported, hvalue, -⟩ := @checkResult_of_reported .strict _ _ _ hget rfl "next" (.int 1)
  obtain ⟨-, -, hnull⟩ := @checkResult_of_reported .strict _ _ _ hget rfl "next" .null
  exact ⟨hget, rfl, hreported.2 hunknown, hvalue.2 ⟨hunknown, nofun⟩,
    hnull.2 (Or.inl ⟨hunknown, rfl⟩)⟩

/-- A `null` result hides that the declaration names no type that is known. -/
theorem not_forall_unresolvable_reported :
    ¬ ∀ (settings : Settings) (function : String) (entry : Entry) (v : Json),
      settings.strictReturns = true → Declaration.ofName? entry.returns = none →
      ∃ type, checkResult settings function entry v =
        .error (.returned (.unresolvable function type)) := by
  intro h
  obtain ⟨type, hfault⟩ := h .strict "next" (Entry.native.declaring "Widget") .null rfl
    (by decide +kernel)
  cases hfault

/-- With a package a name means what it means without, unless it means nothing; then
nothing that is known is meant.  So an entry that declares the name of a kind has the
same faults with a package as without, and the same results pass its check. -/
theorem qualified_of_means {d : Declaration} (hmeans : Declaration.ofName? (some name) = some d)
    (package : String) :
    Declaration.ofName? (some (package ++ "." ++ name)) = (if d = .void then none else some d) ∧
      (d ≠ .void → ∀ entry : Entry,
        (∀ label, Entry.violations label (entry.declaring (package ++ "." ++ name)) =
          Entry.violations label (entry.declaring name)) ∧
        ∀ settings function v,
          (checkResult settings function (entry.declaring (package ++ "." ++ name)) v).mapError
              CallError.failureClass =
            (checkResult settings function (entry.declaring name) v).mapError
              CallError.failureClass) := by
  rcases Declaration.ofName?_cases hmeans with ⟨rfl, hnone⟩ | ⟨k, rfl, hkind⟩
  · refine ⟨?_, fun hne => absurd rfl hne⟩
    rw [Declaration.ofName?_qualified, hnone, if_pos rfl, Option.map_none]
  · have hqualified : Declaration.ofName? (some (package ++ "." ++ name)) = some (.kind k) := by
      rw [Declaration.ofName?_qualified, hkind, Option.map_some]
    refine ⟨by rw [hqualified, if_neg nofun], fun _ entry => ⟨fun label => ?_, ?_⟩⟩
    · rw [Entry.violations_declaring hqualified, Entry.violations_declaring hmeans]
    · intro settings function v
      exact failureClass_checkResult_congr (hqualified.trans hmeans.symm) function v

/-- A number is a number in whatever package, and the name for nothing is lost in one. -/
theorem qualified_of_means_long :
    Declaration.ofName? (some "long ") = some (.kind .number) ∧
      Declaration.ofName? (some "java.lang.long ") = some (.kind .number) ∧
      (checkResult .strict "next" (Entry.native.declaring "java.lang.long ") (.int 1)).mapError
          CallError.failureClass =
        (checkResult .strict "next" (Entry.native.declaring "long ") (.int 1)).mapError
          CallError.failureClass ∧
      Declaration.ofName? (some "Void") = some .void ∧
      Declaration.ofName? (some "java.lang.Void") = none := by
  have hlong : Declaration.ofName? (some "long ") = some (.kind .number) := by decide +kernel
  have hvoid : Declaration.ofName? (some "Void") = some .void := by decide +kernel
  obtain ⟨hmeans, hsame⟩ := qualified_of_means hlong "java.lang"
  exact ⟨hlong, hmeans, (hsame nofun Entry.native).2 .strict "next" (.int 1), hvoid,
    (qualified_of_means hvoid "java.lang").1⟩

/-- The name for nothing does not keep its meaning in a package. -/
theorem not_forall_qualified_means :
    ¬ ∀ (package name : String) (d : Declaration), Text.trim name ≠ "" →
      Declaration.ofName? (some name) = some d →
      Declaration.ofName? (some (package ++ "." ++ name)) = some d := by
  intro h
  have hvoid := h "java.lang" "Void" .void (by decide +kernel) (by decide +kernel)
  revert hvoid
  decide +kernel

end Service

end Switchboard
