import Mathlib.Algebra.GroupWithZero.Nat
import Mathlib.Data.List.TakeWhile
import Switchboard.Text.Blank

/-!
# Texts between separators

A text is the join of its pieces, and no piece holds a separator.  These two
facts determine the pieces, so taking a text apart and joining parts undo each
other.

## Main statements

* `Text.pieces_eq_iff`: which parts the pieces of a text are.
* `Text.length_pieces`: how many there are.
* `Text.count_intercalate`: the separators of joined parts.
-/

namespace Switchboard.Text

/-! ## The first separator -/

theorem forall_bne_of_not_mem {c : Char} {cs : List Char} (h : c ∉ cs) :
    ∀ d ∈ cs, (d != c) = true := by
  intro d hd
  have hne : d ≠ c := fun heq => h (heq ▸ hd)
  simpa using hne

/-- What stands before the first separator is found within the part before any of them. -/
@[simp] theorem takeWhile_append_separator (c : Char) (front back : List Char) :
    (front ++ c :: back).takeWhile (· != c) = front.takeWhile (· != c) := by
  induction front with
  | nil => simp
  | cons d rest ih => by_cases h : d = c <;> simp [h, ih]

theorem takeWhile_append_of_mem {c : Char} {cs : List Char} (h : c ∈ cs) (more : List Char) :
    (cs ++ more).takeWhile (· != c) = cs.takeWhile (· != c) := by
  obtain ⟨front, back, rfl⟩ := List.append_of_mem h
  simp

theorem takeWhile_append_cons {c : Char} {front : List Char} (h : c ∉ front) (back : List Char) :
    (front ++ c :: back).takeWhile (· != c) = front := by
  simp [List.takeWhile_eq_self_iff.2 (forall_bne_of_not_mem h)]

/-- What stands behind the last separator of a text between two that hold none. -/
theorem reverse_takeWhile_between {c : Char} {before after : List Char} (hbefore : c ∉ before)
    (hafter : c ∉ after) (cs : List Char) :
    ((before ++ (cs ++ after)).reverse.takeWhile (· != c)).reverse =
      (if c ∈ cs then [] else before) ++ ((cs.reverse.takeWhile (· != c)).reverse ++ after) := by
  have hback : (before ++ (cs ++ after)).reverse.takeWhile (· != c) =
      after.reverse ++ (cs.reverse ++ before.reverse).takeWhile (· != c) := by
    rw [List.reverse_append, List.reverse_append, List.append_assoc,
      List.takeWhile_append_of_pos (forall_bne_of_not_mem (mt List.mem_reverse.1 hafter))]
  rw [hback, List.reverse_append, List.reverse_reverse]
  by_cases h : c ∈ cs
  · rw [if_pos h, List.nil_append, takeWhile_append_of_mem (List.mem_reverse.2 h)]
  · have hall : ∀ d ∈ cs.reverse ++ before.reverse, (d != c) = true :=
      forall_bne_of_not_mem (by simp [h, hbefore])
    have hown : ∀ d ∈ cs.reverse, (d != c) = true := fun d hd => hall d (List.mem_append_left _ hd)
    rw [if_neg h, List.takeWhile_eq_self_iff.2 hall, List.takeWhile_eq_self_iff.2 hown,
      List.reverse_append, List.reverse_reverse, List.reverse_reverse, List.append_assoc]

theorem dropWhile_append_cons {c : Char} {front : List Char} (h : c ∉ front) (back : List Char) :
    (front ++ c :: back).dropWhile (· != c) = c :: back := by
  rw [List.dropWhile_append_of_pos (forall_bne_of_not_mem h), List.dropWhile_cons]
  simp

theorem dropWhile_of_not_mem {c : Char} {cs : List Char} (h : c ∉ cs) :
    cs.dropWhile (· != c) = [] :=
  List.dropWhile_eq_nil_iff.2 (forall_bne_of_not_mem h)

/-! ## All separators -/

theorem pieces_eq_splitOn (separator : Char) (cs : List Char) :
    pieces separator cs = cs.splitOn separator := by
  induction cs with
  | nil => rfl
  | cons c rest ih =>
    rw [List.splitOn_cons_eq_if_modifyHead, ← ih]
    by_cases h : c = separator
    · simp [pieces, h]
    · cases hrest : pieces separator rest with
      | nil => exact absurd hrest (pieces_ne_nil separator rest)
      | cons first others => simp [pieces, h, hrest]

/-- No piece holds a separator. -/
theorem not_mem_of_mem_pieces {separator : Char} {cs piece : List Char}
    (h : piece ∈ pieces separator cs) : separator ∉ piece := by
  induction cs generalizing piece with
  | nil => simp_all [pieces]
  | cons c rest ih =>
    by_cases hc : c = separator
    · rcases List.mem_cons.1 (by simpa [pieces, hc] using h) with rfl | hmem
      · exact List.not_mem_nil
      · exact ih hmem
    · cases hrest : pieces separator rest with
      | nil => exact absurd hrest (pieces_ne_nil separator rest)
      | cons first others =>
        rcases List.mem_cons.1 (by simpa [pieces, hc, hrest] using h) with rfl | hmem
        · have hfirst : separator ∉ first := ih (by simp [hrest])
          simpa [Ne.symm hc] using hfirst
        · exact ih (by simp [hrest, hmem])

/-- The pieces of a text are the parts without separators that it is the join of. -/
theorem pieces_eq_iff {separator : Char} {cs : List Char} {parts : List (List Char)} :
    pieces separator cs = parts ↔
      parts ≠ [] ∧ (∀ part ∈ parts, separator ∉ part) ∧ [separator].intercalate parts = cs := by
  constructor
  · rintro rfl
    refine ⟨pieces_ne_nil separator cs, fun part hmem => not_mem_of_mem_pieces hmem, ?_⟩
    rw [pieces_eq_splitOn, List.intercalate_splitOn]
  · rintro ⟨hne, hnot, rfl⟩
    rw [pieces_eq_splitOn, List.splitOn_intercalate separator hnot hne]

/-- What is in a part is in the joined parts. -/
theorem mem_intercalate {c : Char} {part separator : List Char} {parts : List (List Char)}
    (hpart : part ∈ parts) (hc : c ∈ part) : c ∈ separator.intercalate parts := by
  induction parts with
  | nil => cases hpart
  | cons first rest ih =>
    cases rest with
    | nil => simpa [List.mem_singleton.1 hpart] using hc
    | cons second others =>
      rw [List.intercalate_cons_cons, List.mem_append, List.mem_append]
      rcases List.mem_cons.1 hpart with rfl | hpart
      · exact Or.inl (Or.inl hc)
      · exact Or.inr (ih hpart)

/-! ## How many -/

/-- There is one piece more than there are separators. -/
@[simp] theorem length_pieces (separator : Char) (cs : List Char) :
    (pieces separator cs).length = cs.count separator + 1 := by
  induction cs with
  | nil => rfl
  | cons c rest ih =>
    by_cases h : c = separator
    · simp [pieces, h, ih]
    · cases hrest : pieces separator rest with
      | nil => exact absurd hrest (pieces_ne_nil separator rest)
      | cons first others =>
        rw [hrest] at ih
        simpa [pieces, h, hrest] using ih

/-- Joined parts have their own separators and one between two of them. -/
@[simp] theorem count_intercalate (separator : Char) (parts : List (List Char)) :
    ([separator].intercalate parts).count separator =
      (parts.map (List.count separator)).sum + (parts.length - 1) := by
  induction parts with
  | nil => rfl
  | cons first rest ih =>
    cases rest with
    | nil => simp
    | cons second others =>
      rw [List.intercalate_cons_cons, List.count_append, List.count_append, ih]
      simp only [List.map_cons, List.sum_cons, List.length_cons, List.count_singleton_self]
      omega

end Switchboard.Text
