import Switchboard.Access.Caller
import Switchboard.Proofs.Text.Trimming

/-!
# Verbs in free spelling

A text means a verb if it is the verb's name in any case, with blanks around it.
A list of methods is compared with a verb in any case but with its blanks, so the
two agree on trimmed texts.

## Main statements

* `Verb.ofText?_eq_some_iff`: which verb a text means.
* `Verb.ofText?_eq_some_iff_matches`: a trimmed text means the verb it names.
* `Verb.upperCase_eq_name_iff`: which verb a listed text names.
-/

namespace Switchboard.Verb

@[simp] theorem upperCase_name (verb : Verb) : upperCase verb.name = verb.name := by
  cases verb <;> rfl

@[simp] theorem find?_name_eq_some_iff {text : String} {verb : Verb} :
    (all.find? fun other => other.name == text) = some verb ↔ text = verb.name := by
  constructor
  · intro h
    have hname : (verb.name == text) = true :=
      @List.find?_some Verb (fun other => other.name == text) _ _ h
    exact (beq_iff_eq.1 hname).symm
  · rintro rfl
    cases verb <;> rfl

/-- A text means the verb whose name it is in upper case and without blanks around it. -/
theorem ofText?_eq_some_iff {s : String} {verb : Verb} :
    ofText? s = some verb ↔ upperCase (Text.trim s) = verb.name :=
  find?_name_eq_some_iff

/-- A trimmed text means the verb that it names in a list of methods. -/
theorem ofText?_eq_some_iff_matches {s : String} (h : Text.trim s = s) {verb : Verb} :
    ofText? s = some verb ↔ upperCase s = upperCase verb.name := by
  simp [ofText?_eq_some_iff, h]

/-! ## Listed texts -/

/-- No blank is a letter that has an upper case. -/
theorem toUpper_of_isBlank {c : Char} (h : Text.isBlank c = true) : c.toUpper = c := by
  refine dif_neg fun hletter => ?_
  have hlow : 97 ≤ c.toNat := UInt32.le_iff_toNat_le.1 hletter.1
  have hhigh : c.toNat ≤ 122 := UInt32.le_iff_toNat_le.1 hletter.2
  simp only [Text.isBlank, Text.blankRanges, List.any_cons, List.any_nil, Bool.or_eq_true,
    Bool.and_eq_true, decide_eq_true_eq, Bool.false_eq_true, or_false] at h
  omega

/-- A text that names a verb in any case has no blanks, not even around the name. -/
theorem trim_of_upperCase_eq_name {s : String} {verb : Verb} (h : upperCase s = verb.name) :
    Text.trim s = s := by
  have hname : (verb.name.toList.all fun c => !Text.isBlank c) = true := by cases verb <;> decide
  refine Text.trim_eq_self_of_forall fun c hc => Bool.eq_false_iff.2 fun hblank => ?_
  have hmem : c ∈ verb.name.toList := by
    rw [← h, upperCase, String.toList_ofList, List.mem_map]
    exact ⟨c, hc, toUpper_of_isBlank hblank⟩
  exact absurd hblank (by simpa using List.all_eq_true.1 hname c hmem)

/-- A text in a list of methods names just the verb that it means, if it is trimmed,
and else none. -/
theorem upperCase_eq_name_iff {s : String} {verb : Verb} :
    upperCase s = upperCase verb.name ↔ Text.trim s = s ∧ ofText? s = some verb := by
  constructor
  · intro h
    have htrim : Text.trim s = s := trim_of_upperCase_eq_name (h.trans (upperCase_name verb))
    exact ⟨htrim, (ofText?_eq_some_iff_matches htrim).2 h⟩
  · rintro ⟨htrim, hmeans⟩
    exact (ofText?_eq_some_iff_matches htrim).1 hmeans

end Switchboard.Verb
