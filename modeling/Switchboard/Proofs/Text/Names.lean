import Switchboard.Text.Blank
import Switchboard.Text.Name

/-!
# What spells a name

A name is a letter or an underscore, and letters, digits and underscores behind
it, with no character of any other alphabet.

## Main statements

* `Text.isName_iff`: which texts are names.
-/

namespace Switchboard.Text

/-- A letter from `A` to `Z` or from `a` to `z`, or an underscore. -/
def StartsName (c : Char) : Prop :=
  ('A' ≤ c ∧ c ≤ 'Z') ∨ ('a' ≤ c ∧ c ≤ 'z') ∨ c = '_'

/-- Such a character or a digit from `0` to `9`. -/
def ContinuesName (c : Char) : Prop :=
  StartsName c ∨ ('0' ≤ c ∧ c ≤ '9')

/-- The texts `[A-Za-z_][A-Za-z0-9_]*`. -/
def SpellsName (s : String) : Prop :=
  ∃ head tail, s.toList = head :: tail ∧ StartsName head ∧ ∀ c ∈ tail, ContinuesName c

@[simp] theorem between_iff {n low high : UInt32} :
    (decide (low ≤ n) && decide (n ≤ high)) = true ↔ low ≤ n ∧ n ≤ high := by
  rw [Bool.and_eq_true, decide_eq_true_eq, decide_eq_true_eq]

@[simp] theorem isNameHead_iff {c : Char} : isNameHead c = true ↔ StartsName c := by
  have hupper : c.isUpper = true ↔ 'A' ≤ c ∧ c ≤ 'Z' := decide_eq_true_iff
  have hlower : c.isLower = true ↔ 'a' ≤ c ∧ c ≤ 'z' := between_iff
  have halpha : c.isAlpha = true ↔ c.isUpper = true ∨ c.isLower = true := Bool.or_eq_true_iff
  rw [isNameHead, StartsName, Bool.or_eq_true, halpha, hupper, hlower, beq_iff_eq, or_assoc]

@[simp] theorem isNameTail_iff {c : Char} : isNameTail c = true ↔ ContinuesName c := by
  have hdigit : c.isDigit = true ↔ '0' ≤ c ∧ c ≤ '9' := between_iff
  have halphanum : c.isAlphanum = true ↔ c.isAlpha = true ∨ c.isDigit = true :=
    Bool.or_eq_true_iff
  rw [ContinuesName, ← isNameHead_iff, ← hdigit, isNameTail, isNameHead, Bool.or_eq_true,
    Bool.or_eq_true, halphanum, or_right_comm]

@[simp] theorem isName_iff {s : String} : isName s = true ↔ SpellsName s := by
  rw [isName, SpellsName]
  cases s.toList with
  | nil => simp [isNameChars]
  | cons head tail =>
    simp only [isNameChars, Bool.and_eq_true, List.all_eq_true, isNameHead_iff, isNameTail_iff,
      List.cons.injEq]
    constructor
    · rintro ⟨hhead, htail⟩
      exact ⟨head, tail, ⟨rfl, rfl⟩, hhead, htail⟩
    · rintro ⟨head', tail', ⟨rfl, rfl⟩, hhead, htail⟩
      exact ⟨hhead, htail⟩

instance (c : Char) : Decidable (StartsName c) :=
  inferInstanceAs (Decidable (_ ∨ _))

instance (c : Char) : Decidable (ContinuesName c) :=
  inferInstanceAs (Decidable (_ ∨ _))

/-- A name holds no other characters. -/
theorem SpellsName.not_mem {s : String} (h : SpellsName s) {c : Char} (hc : ¬ ContinuesName c) :
    c ∉ s.toList := by
  obtain ⟨head, tail, hs, hhead, htail⟩ := h
  rw [hs, List.mem_cons, not_or]
  exact ⟨fun heq => hc (Or.inl (heq ▸ hhead)), fun hmem => hc (htail c hmem)⟩

theorem SpellsName.ne_empty {s : String} (h : SpellsName s) : s.toList ≠ [] := by
  obtain ⟨head, tail, hs, -, -⟩ := h
  simp [hs]

/-- No visible character of the first code block is blank. -/
theorem isBlank_of_visible {c : Char} (hlow : 32 < c.toNat) (hhigh : c.toNat < 133) :
    isBlank c = false := by
  have hapart : ∀ range ∈ blankRanges, range.2 ≤ 32 ∨ 133 ≤ range.1 := by decide
  rw [isBlank, List.any_eq_false]
  intro range hmem
  simp only [Bool.and_eq_true, decide_eq_true_eq]
  have := hapart range hmem
  omega

theorem toNat_of_isDigit {c : Char} (h : c.isDigit = true) : 48 ≤ c.toNat ∧ c.toNat ≤ 57 :=
  between_iff.1 h

theorem StartsName.toNat_cases {c : Char} (h : StartsName c) :
    65 ≤ c.toNat ∧ c.toNat ≤ 90 ∨ 97 ≤ c.toNat ∧ c.toNat ≤ 122 ∨ c.toNat = 95 := by
  rcases h with h | h | rfl
  · exact Or.inl h
  · exact Or.inr (Or.inl h)
  · exact Or.inr (Or.inr rfl)

theorem isBlank_of_startsName {c : Char} (h : StartsName c) : isBlank c = false := by
  have hrange := h.toNat_cases
  exact isBlank_of_visible (by omega) (by omega)

/-- A name is not blank. -/
theorem SpellsName.not_isAllBlank {s : String} (h : SpellsName s) : isAllBlank s = false := by
  obtain ⟨head, tail, hs, hhead, -⟩ := h
  rw [isAllBlank, hs, List.all_cons, isBlank_of_startsName hhead, Bool.false_and]

end Switchboard.Text
