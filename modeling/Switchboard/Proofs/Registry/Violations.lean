import Switchboard.Proofs.Text.Names
import Switchboard.Registry.Report

/-!
# What a report says

A report on a registry lists the violations of its entries and nothing else.
What it shows of an issue, the failure class and the path, tells which entry the
issue is about, whatever the names are.

## Main definitions

* `Entry.Violates`: what it takes to violate a rule.
* `Registry.Reports`: a report shows an issue.

## Main statements

* `Registry.mem_issues_iff`: the issues are the violations.
* `Issue.name_eq_of_shown`: class and path of an issue tell its entry.
* `Registry.isAccepted_iff`: a registry is accepted if no entry violates a rule.
-/

namespace Switchboard

/-! ## Violations -/

namespace Entry

/-- What it takes for the entry under a name to violate a rule. -/
def Violates (name : String) (entry : Entry) : Violation → Prop
  | .invalidName => ¬ Text.SpellsName name
  | .nativeHasSource => entry.execution = .native ∧ ∃ source, entry.source? = some source
  | .sourceMissing => entry.execution = .script ∧ entry.source? = none
  | .unsupportedKind kind => entry.execution = .unsupported kind
  | .unresolvableReturnType type =>
    Declaration.ofName? entry.returns = none ∧ type = entry.returns.getD ""
  | .unknownMethod method => method ∈ entry.methods ∧ Verb.ofText? method = none

theorem mem_executionViolations_iff {entry : Entry} {violation : Violation} :
    violation ∈ entry.executionViolations ↔
      violation = .nativeHasSource ∧ entry.execution = .native ∧
          (∃ source, entry.source? = some source) ∨
        violation = .sourceMissing ∧ entry.execution = .script ∧ entry.source? = none ∨
        ∃ kind, violation = .unsupportedKind kind ∧ entry.execution = .unsupported kind := by
  unfold executionViolations
  cases entry.execution <;> cases entry.source? <;> simp

@[simp] theorem mem_returnViolations_iff {entry : Entry} {violation : Violation} :
    violation ∈ entry.returnViolations ↔
      violation = .unresolvableReturnType (entry.returns.getD "") ∧
        Declaration.ofName? entry.returns = none := by
  unfold returnViolations
  cases Declaration.ofName? entry.returns <;> simp

theorem methods_of_allowedMethods {entry : Entry} {set : TextSet}
    (h : entry.allowedMethods = some set) : entry.methods = set.toList := by
  rw [methods, h, Option.map_some, Option.getD_some]

@[simp] theorem mem_methodViolations_iff {entry : Entry} {violation : Violation} :
    violation ∈ entry.methodViolations ↔
      ∃ method, violation = .unknownMethod method ∧ method ∈ entry.methods ∧
        Verb.ofText? method = none := by
  simp only [methodViolations, List.mem_map, List.mem_filter, Option.isNone_iff_eq_none]
  constructor
  · rintro ⟨method, hmethod, rfl⟩
    exact ⟨method, rfl, hmethod⟩
  · rintro ⟨method, rfl, hmethod⟩
    exact ⟨method, hmethod, rfl⟩

/-- The violations of an entry are those it is found to make. -/
@[simp] theorem mem_violations_iff {name : String} {entry : Entry} {violation : Violation} :
    violation ∈ violations name entry ↔ Violates name entry violation := by
  have hname : (violation ∈ if Text.isName name then [] else [Violation.invalidName]) ↔
      violation = .invalidName ∧ ¬ Text.SpellsName name := by
    rw [← Text.isName_iff]
    split <;> simp_all
  simp only [violations, List.mem_append, hname, mem_executionViolations_iff,
    mem_returnViolations_iff, mem_methodViolations_iff]
  cases violation <;> simp [Violates, and_comm, eq_comm]

end Entry

/-! ## What is shown of an issue -/

namespace Violation

/-- Violations of one class are at fault in one field. -/
theorem field_eq_of_failureClass_eq {a b : Violation}
    (h : a.failureClass = b.failureClass) : a.field = b.field := by
  cases a <;> cases b <;> first | rfl | simp [failureClass] at h

@[simp] theorem message_unsupportedKind (name kind : String) :
    (unsupportedKind kind).message name =
      "execution kind `" ++ kind ++ "` must be one of [native, script]" := rfl

@[simp] theorem message_unresolvableReturnType (name type : String) :
    (unresolvableReturnType type).message name =
      "declared return type `" ++ type ++ "` names no known type" := rfl

@[simp] theorem message_unknownMethod (name method : String) :
    (unknownMethod method).message name = "unknown request method `" ++ method ++ "`" := rfl

end Violation

/-- The failure class and the path of an issue tell the name of its entry. -/
theorem Issue.name_eq_of_shown {a b : Issue} (hclass : a.failureClass = b.failureClass)
    (hpath : a.path = b.path) : a.name = b.name := by
  have hfield := Violation.field_eq_of_failureClass_eq hclass
  rwa [path, path, hfield, String.append_left_inj, String.append_right_inj] at hpath

namespace Registry

/-- The report on a registry shows an issue of a class at a path. -/
def Reports (registry : Registry) (failureClass path : String) : Prop :=
  ∃ issue ∈ registry.issues, issue.failureClass = failureClass ∧ issue.path = path

/-- The report on a registry shows that the entry under a name lists a method
that is none. -/
def ReportsMethod (registry : Registry) (name method : String) : Prop :=
  ∃ issue ∈ registry.issues, issue.failureClass = "registry_unknown_method" ∧
    issue.path = "functions." ++ name ++ ".allowedCallerMethods" ∧
    issue.message = "unknown request method `" ++ method ++ "`"

/-- The issues of a registry are the violations of its entries. -/
theorem mem_issues_iff {registry : Registry} {issue : Issue} :
    issue ∈ registry.issues ↔ ∃ entry, registry.get? issue.name = some entry ∧
      Entry.Violates issue.name entry issue.violation := by
  simp only [issues, List.mem_mergeSort, List.mem_flatMap, List.mem_map, Dict.get?_eq_some_iff,
    ← Entry.mem_violations_iff]
  constructor
  · rintro ⟨⟨name, entry⟩, hrow, violation, hviolation, rfl⟩
    exact ⟨entry, hrow, hviolation⟩
  · rintro ⟨entry, hrow, hviolation⟩
    exact ⟨(issue.name, entry), hrow, issue.violation, hviolation, rfl⟩

/-- A registry is accepted exactly if no entry violates a rule. -/
theorem isAccepted_iff {registry : Registry} :
    registry.isAccepted = true ↔ ∀ name entry, registry.get? name = some entry →
      ∀ violation, ¬ Entry.Violates name entry violation := by
  rw [isAccepted, List.isEmpty_iff, List.eq_nil_iff_forall_not_mem]
  simp only [mem_issues_iff, not_exists, not_and]
  exact ⟨fun h name entry hget violation => h ⟨name, violation⟩ entry hget,
    fun h issue entry hget => h issue.name entry hget issue.violation⟩

/-- A registry is accepted exactly if nothing is found wrong with any of its rows. -/
theorem isAccepted_iff_entries {registry : Registry} :
    registry.isAccepted = true ↔
      ∀ row ∈ registry.entries, Entry.violations row.1 row.2 = [] := by
  simp only [isAccepted_iff, ← Entry.mem_violations_iff, ← List.eq_nil_iff_forall_not_mem,
    Dict.get?_eq_some_iff, Prod.forall]

section

variable {registry : Registry} {name : String} {entry : Entry}

/-- What is reported at the path of an entry is a violation by that entry. -/
theorem reports_iff (hget : registry.get? name = some entry) (violation : Violation) :
    registry.Reports violation.failureClass ("functions." ++ name ++ violation.field) ↔
      ∃ other : Violation, other.failureClass = violation.failureClass ∧
        Entry.Violates name entry other := by
  constructor
  · rintro ⟨issue, hissue, hclass, hpath⟩
    obtain rfl : issue.name = name :=
      @Issue.name_eq_of_shown issue ⟨name, violation⟩ hclass hpath
    obtain ⟨found, hfound, hviolates⟩ := mem_issues_iff.1 hissue
    obtain rfl := Option.some.inj (hget.symm.trans hfound)
    exact ⟨issue.violation, hclass, hviolates⟩
  · rintro ⟨other, hclass, hviolates⟩
    refine ⟨⟨name, other⟩, mem_issues_iff.2 ⟨entry, hget, hviolates⟩, hclass, ?_⟩
    rw [Issue.path, Violation.field_eq_of_failureClass_eq hclass]

theorem reports_invalidName_iff (hget : registry.get? name = some entry) :
    registry.Reports "registry_invalid_name" ("functions." ++ name) ↔ ¬ Text.SpellsName name := by
  have h := reports_iff hget .invalidName
  rw [Violation.field, String.append_empty] at h
  refine h.trans ⟨?_, fun hname => ⟨.invalidName, rfl, hname⟩⟩
  rintro ⟨other, hclass, hviolates⟩
  cases other with
  | invalidName => exact hviolates
  | _ => simp [Violation.failureClass] at hclass

theorem reports_unsupportedKind_iff (hget : registry.get? name = some entry) :
    registry.Reports "registry_unsupported_kind" ("functions." ++ name ++ ".executionKind") ↔
      ∃ kind, entry.execution = .unsupported kind := by
  refine (reports_iff hget (.unsupportedKind "")).trans
    ⟨?_, fun ⟨kind, hkind⟩ => ⟨.unsupportedKind kind, rfl, hkind⟩⟩
  rintro ⟨other, hclass, hviolates⟩
  cases other with
  | unsupportedKind kind => exact ⟨kind, hviolates⟩
  | _ => simp [Violation.failureClass] at hclass

theorem reports_unresolvableReturnType_iff (hget : registry.get? name = some entry) :
    registry.Reports "registry_unresolvable_return_type"
        ("functions." ++ name ++ ".declaredReturnType") ↔
      Declaration.ofName? entry.returns = none := by
  refine (reports_iff hget (.unresolvableReturnType "")).trans
    ⟨?_, fun hnone => ⟨.unresolvableReturnType (entry.returns.getD ""), rfl, hnone, rfl⟩⟩
  rintro ⟨other, hclass, hviolates⟩
  cases other with
  | unresolvableReturnType type => exact hviolates.1
  | _ => simp [Violation.failureClass] at hclass

theorem reportsMethod_iff (hget : registry.get? name = some entry) {method : String} :
    registry.ReportsMethod name method ↔ method ∈ entry.methods ∧ Verb.ofText? method = none := by
  constructor
  · rintro ⟨issue, hissue, hclass, hpath, hmessage⟩
    obtain rfl : issue.name = name :=
      @Issue.name_eq_of_shown issue ⟨name, .unknownMethod method⟩ hclass hpath
    obtain ⟨found, hfound, hviolates⟩ := mem_issues_iff.1 hissue
    obtain rfl := Option.some.inj (hget.symm.trans hfound)
    obtain ⟨name, violation⟩ := issue
    cases violation with
    | unknownMethod listed =>
      rw [Issue.message, Violation.message_unknownMethod, String.append_left_inj,
        String.append_right_inj] at hmessage
      exact hmessage ▸ hviolates
    | _ => simp [Issue.failureClass, Violation.failureClass] at hclass
  · intro hviolates
    have hissue : ⟨name, .unknownMethod method⟩ ∈ registry.issues :=
      mem_issues_iff.2 ⟨entry, hget, hviolates⟩
    exact ⟨_, hissue, rfl, rfl, Violation.message_unknownMethod name method⟩

end

end Registry

end Switchboard
