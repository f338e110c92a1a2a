import Mathlib.Data.Prod.Basic
import Mathlib.Data.Set.Function
import Switchboard.Proofs.Registry.Violations

/-!
# How a report is ordered

A report shows an issue by the path of the field at fault, the failure class and
the wording.  The three together tell the issue, so no two rows of a report are
alike, and the rows stand in the strict order of the three.

## Main definitions

* `Issue.shown`: what a report shows of an issue.
* `Issue.Precedes`: the strict order of what is shown.
* `Registry.Violated`: the violations by the entries of a registry.

## Main statements

* `Issue.shown_injective`: what is shown tells the issue.
* `Registry.pairwise_precedes_issues`: a report is in strict order.
* `Registry.report_exact`: a report shows each violation once, and in order.
-/

namespace Switchboard

/-! ## What is shown of an issue -/

/-- Violations of one class with one wording are the same. -/
theorem Violation.eq_of_message_eq {name : String} {a b : Violation}
    (hclass : a.failureClass = b.failureClass) (hmessage : a.message name = b.message name) :
    a = b := by
  cases a <;> cases b <;> try first | rfl | simp [failureClass] at hclass
  -- what is left are violations that cite a text between the same words
  all_goals
    simp only [message_unsupportedKind, message_unresolvableReturnType, message_unknownMethod,
      String.append_left_inj, String.append_right_inj] at hmessage
    rw [hmessage]

namespace Issue

/-- What a report shows of an issue: the path, the failure class and the wording. -/
def shown (issue : Issue) : String × String × String :=
  (issue.path, issue.failureClass, issue.message)

/-- What is shown of an issue tells the issue. -/
theorem shown_injective : Function.Injective shown := by
  rintro ⟨name, a⟩ ⟨name', b⟩ h
  simp only [shown, Prod.mk.injEq] at h
  obtain ⟨hpath, hclass, hmessage⟩ := h
  obtain rfl : name = name' := name_eq_of_shown hclass hpath
  obtain rfl : a = b := Violation.eq_of_message_eq hclass hmessage
  rfl

/-! ## The order of a report -/

/-- One comes before the other by its path, then by its failure class and then by
its wording. -/
abbrev Precedes : String × String × String → String × String × String → Prop :=
  Prod.Lex (· < ·) (Prod.Lex (· < ·) (· < ·))

/-- Two issues are in order unless the second precedes the first. -/
@[simp] theorem isBefore_iff {a b : Issue} : isBefore a b = true ↔ ¬ Precedes b.shown a.shown := by
  have hlt : ∀ {s t : String}, s ≠ t → (s < t ↔ ¬ t < s) := fun hne =>
    ⟨fun h h' => String.lt_irrefl _ (String.lt_trans h h'),
      fun h => Dict.lt_of_not_lt_of_ne h hne.symm⟩
  simp only [isBefore, Precedes, Prod.lex_def, shown, not_or, not_and]
  by_cases hpath : a.path = b.path
  · by_cases hclass : a.failureClass = b.failureClass
    · rw [if_pos hpath, if_pos hclass, hpath, hclass, decide_eq_true_eq, ← String.not_lt]
      exact ⟨fun h => ⟨String.lt_irrefl _, fun _ => ⟨String.lt_irrefl _, fun _ => h⟩⟩,
        fun h => (h.2 rfl).2 rfl⟩
    · rw [if_pos hpath, if_neg hclass, hpath, decide_eq_true_eq, hlt hclass]
      exact ⟨fun h => ⟨String.lt_irrefl _, fun _ => ⟨h, fun heq => absurd heq.symm hclass⟩⟩,
        fun h => (h.2 rfl).1⟩
  · rw [if_neg hpath, decide_eq_true_eq, hlt hpath]
    exact ⟨fun h => ⟨h, fun heq => absurd heq.symm hpath⟩, fun h => h.1⟩

theorem isBefore_trans (a b c : Issue) (hab : isBefore a b = true) (hbc : isBefore b c = true) :
    isBefore a c = true := by
  rw [isBefore_iff] at *
  intro hca
  rcases Std.Trichotomous.rel_or_eq_or_rel_swap (r := Precedes) (a := a.shown) (b := b.shown) with
    hlt | heq | hgt
  · exact hbc (Prod.Lex.trans hca hlt)
  · exact hbc (heq ▸ hca)
  · exact hab hgt

theorem isBefore_total (a b : Issue) : (isBefore a b || isBefore b a) = true := by
  rw [Bool.or_eq_true, isBefore_iff, isBefore_iff, ← not_and_or]
  exact fun ⟨hba, hab⟩ => Std.Irrefl.irrefl (r := Precedes) a.shown (Prod.Lex.trans hab hba)

end Issue

/-! ## Rows of a report -/

namespace Entry

theorem nodup_methods (entry : Entry) : entry.methods.Nodup := by
  unfold methods
  cases entry.allowedMethods with
  | none => exact List.nodup_nil
  | some set => exact set.nodup_keys

/-- No violation by an entry is found twice. -/
theorem nodup_violations (name : String) (entry : Entry) : (violations name entry).Nodup := by
  have hname : (if Text.isName name then [] else [Violation.invalidName]).Nodup := by
    split <;> simp
  have hexecution : entry.executionViolations.Nodup := by
    unfold executionViolations
    split <;> simp
  have hreturn : entry.returnViolations.Nodup := by
    unfold returnViolations
    split <;> simp
  have hmethod : entry.methodViolations.Nodup :=
    List.pairwise_map.2 ((entry.nodup_methods.filter _).imp fun hne heq =>
      hne (Violation.unknownMethod.inj heq))
  have hfirst : ∀ violation ∈ (if Text.isName name then [] else [Violation.invalidName]),
      violation = .invalidName := by
    intro violation hmem
    split at hmem <;> simp_all
  rw [violations, List.nodup_append, List.nodup_append, List.nodup_append]
  refine ⟨⟨⟨hname, hexecution, ?_⟩, hreturn, ?_⟩, hmethod, ?_⟩
  · rintro found hfound _ hother rfl
    obtain rfl := hfirst found hfound
    simp [mem_executionViolations_iff] at hother
  · rintro found hfound _ hother rfl
    obtain ⟨rfl, -⟩ := mem_returnViolations_iff.1 hother
    rcases List.mem_append.1 hfound with hfound | hfound
    · cases hfirst _ hfound
    · simp [mem_executionViolations_iff] at hfound
  · rintro found hfound _ hother rfl
    obtain ⟨method, rfl, -⟩ := mem_methodViolations_iff.1 hother
    simp only [List.mem_append] at hfound
    rcases hfound with (hfound | hfound) | hfound
    · cases hfirst _ hfound
    · simp [mem_executionViolations_iff] at hfound
    · simp at hfound

end Entry

namespace Registry

/-- The entry under the name of an issue makes its violation. -/
def Violated (registry : Registry) (issue : Issue) : Prop :=
  ∃ entry, registry.get? issue.name = some entry ∧
    Entry.Violates issue.name entry issue.violation

/-- No issue is listed twice. -/
theorem nodup_issues (registry : Registry) : registry.issues.Nodup := by
  refine (List.mergeSort_perm _ _).nodup_iff.2 (List.pairwise_flatMap.2 ⟨?_, ?_⟩)
  · intro row _
    exact List.pairwise_map.2 ((Entry.nodup_violations row.1 row.2).imp fun hne heq =>
      hne (congrArg Issue.violation heq))
  · refine registry.sorted.imp ?_
    intro row row' hlt issue hissue issue' hissue' heq
    obtain ⟨violation, -, rfl⟩ := List.mem_map.1 hissue
    obtain ⟨violation', -, rfl⟩ := List.mem_map.1 hissue'
    exact String.ne_of_lt hlt (congrArg Issue.name heq)

/-- A report is in the strict order of what it shows. -/
theorem pairwise_precedes_issues (registry : Registry) :
    (registry.issues.map Issue.shown).Pairwise Issue.Precedes := by
  have hordered : registry.issues.Pairwise fun a b => Issue.isBefore a b = true :=
    List.pairwise_mergeSort Issue.isBefore_trans Issue.isBefore_total _
  refine List.pairwise_map.2 (hordered.imp₂ ?_ registry.nodup_issues)
  intro a b hbefore hne
  rcases Std.Trichotomous.rel_or_eq_or_rel_swap (r := Issue.Precedes) (a := a.shown)
    (b := b.shown) with hlt | heq | hgt
  · exact hlt
  · exact absurd (Issue.shown_injective heq) hne
  · exact absurd hgt (Issue.isBefore_iff.1 hbefore)

/-- What a report shows are the violations by the entries of the registry, each once. -/
theorem bijOn_shown (registry : Registry) :
    Set.BijOn Issue.shown {issue | registry.Violated issue}
      {shown | shown ∈ registry.issues.map Issue.shown} := by
  refine ⟨fun issue hissue => ?_, Issue.shown_injective.injOn, fun shown hshown => ?_⟩
  · exact List.mem_map_of_mem (mem_issues_iff.2 hissue)
  · obtain ⟨issue, hissue, rfl⟩ := List.mem_map.1 hshown
    exact ⟨issue, mem_issues_iff.1 hissue, rfl⟩

/-! ## Failure classes and verdict -/

theorem pairwise_lt_failureClasses (issues : List Issue) :
    (failureClasses issues).Pairwise (· < ·) :=
  List.pairwise_map.2 (TextSet.ofList (issues.map Issue.failureClass)).sorted

@[simp] theorem mem_failureClasses_iff {issues : List Issue} {failureClass : String} :
    failureClass ∈ failureClasses issues ↔ ∃ issue ∈ issues, issue.failureClass = failureClass :=
  TextSet.mem_keys_ofList.trans List.mem_map

theorem verdict_eq_accepted_iff {registry : Registry} :
    verdict registry.isAccepted = "accepted" ↔ ∀ issue, ¬ registry.Violated issue := by
  have hverdict : ∀ b, verdict b = "accepted" ↔ b = true := by decide
  rw [hverdict, isAccepted, List.isEmpty_iff, List.eq_nil_iff_forall_not_mem]
  simp only [mem_issues_iff, Violated]

/-- A report shows the violations by the entries of its registry, each once, in the
strict order of path, failure class and wording.  Failure class and path tell the
entry, whatever the names are.  The failure classes are those that occur, in strict
order, and the registry is accepted if nothing is violated. -/
theorem report_exact (registry : Registry) :
    Set.BijOn Issue.shown {issue | registry.Violated issue}
        {shown | shown ∈ registry.issues.map Issue.shown} ∧
      (registry.issues.map Issue.shown).Pairwise Issue.Precedes ∧
      (∀ a b : Issue, a.failureClass = b.failureClass → a.path = b.path → a.name = b.name) ∧
      (failureClasses registry.issues).Pairwise (· < ·) ∧
      (∀ failureClass, failureClass ∈ failureClasses registry.issues ↔
        ∃ issue, registry.Violated issue ∧ issue.failureClass = failureClass) ∧
      (verdict registry.isAccepted = "accepted" ↔ ∀ issue, ¬ registry.Violated issue) := by
  refine ⟨registry.bijOn_shown, registry.pairwise_precedes_issues,
    fun a b => Issue.name_eq_of_shown, pairwise_lt_failureClasses _, fun failureClass => ?_,
    verdict_eq_accepted_iff⟩
  simp only [mem_failureClasses_iff, mem_issues_iff, Violated]

end Registry

end Switchboard
