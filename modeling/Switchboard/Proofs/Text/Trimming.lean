import Mathlib.Data.List.DropRight
import Switchboard.Text.Blank

/-!
# Trimmed texts

Trimming takes blanks off both ends of a text and nothing else, so a text that
was trimmed is trimmed.

## Main definitions

* `Text.TrimsTo`: what is left of a text without the blanks at its ends.

## Main statements

* `Text.trim_trim`: trimming twice is trimming once.
* `Text.trimChars_eq_iff`: trimming leaves just that.
-/

namespace Switchboard.Text

/-- Blanks are taken off the end as off the start. -/
theorem trimEnd_eq_rdropWhile (cs : List Char) : trimEnd cs = cs.rdropWhile isBlank := rfl

/-- Behind its start a text keeps its first character when its end is trimmed. -/
@[simp] theorem trimStart_trimEnd_trimStart (cs : List Char) :
    trimStart (trimEnd (trimStart cs)) = trimEnd (trimStart cs) := by
  have hstart : trimStart (trimStart cs) = trimStart cs := List.dropWhile_idempotent isBlank cs
  have hfront : trimEnd (trimStart cs) <+: trimStart cs := List.rdropWhile_prefix isBlank _
  refine List.dropWhile_eq_self_iff.2 fun hpos => ?_
  rw [hfront.getElem hpos]
  exact List.dropWhile_eq_self_iff.1 hstart (Nat.lt_of_lt_of_le hpos hfront.length_le)

@[simp] theorem trimChars_trimChars (cs : List Char) : trimChars (trimChars cs) = trimChars cs := by
  rw [trimChars, trimChars, trimStart_trimEnd_trimStart, trimEnd_eq_rdropWhile,
    trimEnd_eq_rdropWhile, List.rdropWhile_idempotent]

/-- A text that was trimmed is trimmed. -/
@[simp] theorem trim_trim (s : String) : trim (trim s) = trim s := by
  simp [trim]

/-! ## What trimming leaves -/

/-- What is left of a text without the blanks at its ends: all else is blank, and
it neither starts nor ends with a blank. -/
structure TrimsTo (cs ds : List Char) : Prop where
  within : ∃ before after, cs = before ++ (ds ++ after) ∧ (∀ c ∈ before, isBlank c = true) ∧
    ∀ c ∈ after, isBlank c = true
  head : ∀ c, ds.head? = some c → isBlank c = false
  last : ∀ c, ds.getLast? = some c → isBlank c = false

theorem trimStart_append {before cs : List Char} (h : ∀ c ∈ before, isBlank c = true) :
    trimStart (before ++ cs) = trimStart cs :=
  List.dropWhile_append_of_pos h

theorem trimEnd_append {cs after : List Char} (h : ∀ c ∈ after, isBlank c = true) :
    trimEnd (cs ++ after) = trimEnd cs := by
  have hback : ∀ c ∈ after.reverse, isBlank c = true := fun c hc => h c (List.mem_reverse.1 hc)
  rw [trimEnd, List.reverse_append, List.dropWhile_append_of_pos hback, trimEnd]

theorem trimStart_of_head {cs : List Char} (h : ∀ c, cs.head? = some c → isBlank c = false) :
    trimStart cs = cs := by
  cases cs with
  | nil => rfl
  | cons c rest => simp [trimStart, h c rfl]

theorem trimEnd_of_last {cs : List Char} (h : ∀ c, cs.getLast? = some c → isBlank c = false) :
    trimEnd cs = cs := by
  rw [trimEnd_eq_rdropWhile, List.rdropWhile_eq_self_iff]
  intro hne
  simp [h _ (List.getLast?_eq_some_getLast hne)]

theorem trimsTo_trimChars (cs : List Char) : TrimsTo cs (trimChars cs) where
  within := by
    refine ⟨cs.takeWhile isBlank, (trimStart cs).rtakeWhile isBlank, ?_, ?_, ?_⟩
    · rw [trimChars, trimEnd_eq_rdropWhile, List.rdropWhile_append_rtakeWhile, trimStart,
        List.takeWhile_append_dropWhile]
    · exact fun c hc => List.mem_takeWhile_imp hc
    · exact fun c hc => List.mem_rtakeWhile_imp hc
  head := by
    intro c hc
    have hstart : trimStart (trimChars cs) = trimChars cs := trimStart_trimEnd_trimStart cs
    rw [List.head?_eq_getElem?, List.getElem?_eq_some_iff] at hc
    obtain ⟨hpos, rfl⟩ := hc
    simpa using List.dropWhile_eq_self_iff.1 hstart hpos
  last := by
    intro c hc
    have hne : (trimStart cs).rdropWhile isBlank ≠ [] := by
      rintro hnil
      simp [trimChars, trimEnd_eq_rdropWhile, hnil] at hc
    have hlast := List.rdropWhile_last_not isBlank (trimStart cs) hne
    rw [trimChars, trimEnd_eq_rdropWhile, List.getLast?_eq_some_getLast hne,
      Option.some.injEq] at hc
    simpa [hc] using hlast

/-- Trimming leaves what is left without the blanks at the ends. -/
@[simp] theorem trimChars_eq_iff {cs ds : List Char} : trimChars cs = ds ↔ TrimsTo cs ds := by
  constructor
  · rintro rfl
    exact trimsTo_trimChars cs
  · rintro ⟨⟨before, after, rfl, hbefore, hafter⟩, hhead, hlast⟩
    rw [trimChars, trimStart_append hbefore]
    cases ds with
    | nil =>
      have hstart : trimStart ([] ++ after) = [] :=
        List.dropWhile_eq_nil_iff.2 fun c hc => hafter c (by simpa using hc)
      rw [hstart, trimEnd_of_last (by simp)]
    | cons d rest =>
      rw [trimStart_of_head (by simpa using hhead), trimEnd_append hafter, trimEnd_of_last hlast]

/-- Blanks around a text are trimmed off it. -/
theorem trimChars_between_blanks {before cs after : List Char}
    (hbefore : ∀ c ∈ before, isBlank c = true) (hafter : ∀ c ∈ after, isBlank c = true) :
    trimChars (before ++ (cs ++ after)) = trimChars cs := by
  obtain ⟨⟨front, back, hcs, hfront, hback⟩, hhead, hlast⟩ := trimsTo_trimChars cs
  refine trimChars_eq_iff.2 ⟨⟨before ++ front, back ++ after, ?_, ?_, ?_⟩, hhead, hlast⟩
  · conv_lhs => rw [hcs]
    simp only [List.append_assoc]
  · exact fun c hc => (List.mem_append.1 hc).elim (hbefore c) (hfront c)
  · exact fun c hc => (List.mem_append.1 hc).elim (hback c) (hafter c)

/-- What is not blank stays when a text is trimmed. -/
theorem mem_trimChars {cs : List Char} {c : Char} (hc : c ∈ cs) (hblank : isBlank c = false) :
    c ∈ trimChars cs := by
  obtain ⟨before, after, hcs, hbefore, hafter⟩ := (trimsTo_trimChars cs).within
  have hne : isBlank c ≠ true := by simp [hblank]
  rw [hcs, List.mem_append, List.mem_append] at hc
  rcases hc with hc | hc | hc
  · exact absurd (hbefore c hc) hne
  · exact hc
  · exact absurd (hafter c hc) hne

theorem trim_eq_self_iff {s : String} : trim s = s ↔ TrimsTo s.toList s.toList := by
  rw [← trimChars_eq_iff, trim, ← String.toList_inj, String.toList_ofList]

/-- A text without blanks at its ends is trimmed. -/
theorem trim_eq_self_of_ends {s : String} (hhead : ∀ c, s.toList.head? = some c → isBlank c = false)
    (hlast : ∀ c, s.toList.getLast? = some c → isBlank c = false) : trim s = s :=
  trim_eq_self_iff.2 ⟨⟨[], [], by simp, nofun, nofun⟩, hhead, hlast⟩

theorem trim_eq_self_of_forall {s : String} (h : ∀ c ∈ s.toList, isBlank c = false) : trim s = s :=
  trim_eq_self_of_ends (fun c hc => h c (List.mem_of_head? hc))
    fun c hc => h c (List.mem_of_getLast? hc)

/-- What trimming leaves of a text is part of it. -/
theorem TrimsTo.mem {cs ds : List Char} (h : TrimsTo cs ds) {c : Char} (hc : c ∈ ds) : c ∈ cs := by
  obtain ⟨before, after, rfl, -, -⟩ := h.within
  simp [hc]

/-- Nothing is left of a text exactly if it is blank. -/
@[simp] theorem trimsTo_nil_iff {cs : List Char} : TrimsTo cs [] ↔ ∀ c ∈ cs, isBlank c = true := by
  constructor
  · rintro ⟨⟨before, after, rfl, hbefore, hafter⟩, -, -⟩ c hc
    rcases List.mem_append.1 hc with hc | hc
    · exact hbefore c hc
    · exact hafter c (by simpa using hc)
  · intro h
    exact ⟨⟨cs, [], by simp, h, nofun⟩, nofun, nofun⟩

@[simp] theorem trim_eq_empty_iff {s : String} :
    trim s = "" ↔ ∀ c ∈ s.toList, isBlank c = true := by
  rw [← trimsTo_nil_iff, ← trimChars_eq_iff, trim, ← String.toList_inj, String.toList_ofList,
    String.toList_empty]

end Switchboard.Text
