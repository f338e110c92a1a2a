import Mathlib.Data.List.Basic
import Switchboard.Call.Basic
import Switchboard.Proofs.Text.Bytes
import Switchboard.Proofs.Text.Pieces

/-!
# Callee and list

The first opening parenthesis of a call ends its callee, and its last character
closes the list.  The first dot of the callee, if there is one, ends the schema.
The same parts are found by positions in bytes, and then every position that is
computed is one at which the text can be cut.

## Main definitions

* `Call.cutParens?`: callee and list by positions in bytes.

## Main statements

* `Call.splitParens?_eq_some_iff`: which texts have a callee and a list.
* `Call.splitSchema_eq_iff`: the schema and the method of a callee.
* `Call.cutParens?_eq`: no position that is computed fails to cut.
-/

namespace Switchboard.Call

/-! ## Parentheses -/

theorem splitParens?_of_not_mem {cs : List Char} (h : '(' ∉ cs) : splitParens? cs = none := by
  simp only [splitParens?, Text.dropWhile_of_not_mem h]

/-- Behind the first opening parenthesis only the last character counts. -/
theorem splitParens?_append_cons {callee : List Char} (h : '(' ∉ callee) (inner : List Char) :
    splitParens? (callee ++ '(' :: inner) =
      if callee ≠ [] ∧ inner.getLast? = some ')' then some (callee, inner.dropLast) else none := by
  simp only [splitParens?, Text.takeWhile_append_cons h, Text.dropWhile_append_cons h]
  simp

/-- A text has a callee and a list if its first opening parenthesis is not its
first character and its last character is a closing one. -/
@[simp] theorem splitParens?_eq_some_iff {cs callee list : List Char} :
    splitParens? cs = some (callee, list) ↔
      callee ≠ [] ∧ '(' ∉ callee ∧ cs = callee ++ '(' :: (list ++ [')']) := by
  constructor
  · intro h
    by_cases hmem : '(' ∈ cs
    · obtain ⟨front, inner, rfl, hfront⟩ := List.eq_append_cons_of_mem hmem
      rw [splitParens?_append_cons hfront] at h
      split at h
      · rename_i hparts
        obtain ⟨rfl, rfl⟩ := Prod.mk.inj (Option.some.inj h)
        obtain ⟨hne, hlast⟩ := hparts
        have hinner : inner ≠ [] := by
          rintro rfl
          cases hlast
        rw [List.getLast?_eq_some_getLast hinner, Option.some.injEq] at hlast
        refine ⟨hne, hfront, ?_⟩
        rw [← hlast, List.dropLast_concat_getLast]
      · cases h
    · rw [splitParens?_of_not_mem hmem] at h
      cases h
  · rintro ⟨hne, hcallee, rfl⟩
    rw [splitParens?_append_cons hcallee, if_pos ⟨hne, by simp⟩, List.dropLast_concat]

/-- The last of a character in a text. -/
theorem exists_append_cons_last {c : Char} {cs : List Char} (h : c ∈ cs) :
    ∃ front back, cs = front ++ c :: back ∧ c ∉ back := by
  obtain ⟨front, back, hsplit, hnot⟩ := List.eq_append_cons_of_mem (List.mem_reverse.2 h)
  refine ⟨back.reverse, front.reverse, ?_, by simpa using hnot⟩
  rw [← List.reverse_reverse cs, hsplit]
  simp

/-! ## Schema -/

/-- A callee is a method alone, or a schema and a method apart at the first dot. -/
theorem splitSchema_eq_iff {callee method : List Char} {schema : Option (List Char)} :
    splitSchema callee = (schema, method) ↔
      (schema = none ∧ method = callee ∧ '.' ∉ callee) ∨
        ∃ name, schema = some name ∧ '.' ∉ name ∧ callee = name ++ '.' :: method := by
  by_cases hmem : '.' ∈ callee
  · obtain ⟨front, back, rfl, hfront⟩ := List.eq_append_cons_of_mem hmem
    simp only [splitSchema, Text.dropWhile_append_cons hfront, Text.takeWhile_append_cons hfront,
      Prod.mk.injEq]
    constructor
    · rintro ⟨rfl, rfl⟩
      exact Or.inr ⟨front, rfl, hfront, rfl⟩
    · rintro (⟨-, -, hnot⟩ | ⟨name, rfl, hname, heq⟩)
      · exact absurd hmem hnot
      · have hsame := congrArg (List.takeWhile (· != '.')) heq
        rw [Text.takeWhile_append_cons hfront, Text.takeWhile_append_cons hname] at hsame
        subst hsame
        exact ⟨rfl, by simpa using heq⟩
  · simp only [splitSchema, Text.dropWhile_of_not_mem hmem, Prod.mk.injEq]
    constructor
    · rintro ⟨rfl, rfl⟩
      exact Or.inl ⟨rfl, rfl, hmem⟩
    · rintro (⟨rfl, rfl, -⟩ | ⟨name, -, -, rfl⟩)
      · exact ⟨rfl, rfl⟩
      · simp at hmem

/-! ## Positions in bytes -/

/-- Callee and list by positions in bytes, if the text has them.  There is no
answer at all if a position falls short of the start of the text, or is one at
which the text cannot be cut. -/
def cutParens? (text : String) : Option (Option (List Char × List Char)) :=
  match Text.firstByte? '(' text.toList, Text.lastByte? ')' text.toList with
  | some start, some stop =>
    if start = 0 then some none
    else
      match text.utf8ByteSize with
      | 0 => none
      | last + 1 =>
        if stop = last ∧ start < stop then do
          let callee ← Text.slice? 0 start text.toList
          let list ← Text.slice? (start + 1) stop text.toList
          return some (callee, list)
        else some none
  | _, _ => some none

/-- A text with a callee and a list is cut into them. -/
theorem cutParens?_of_parts {text : String} {callee list : List Char} (hne : callee ≠ [])
    (hopen : '(' ∉ callee) (htext : text.toList = callee ++ '(' :: (list ++ [')'])) :
    cutParens? text = some (some (callee, list)) := by
  have hends : text.toList = (callee ++ '(' :: list) ++ [')'] := by simp [htext]
  have hstart : Text.firstByte? '(' text.toList = some (Text.byteLength callee) := by
    rw [htext, Text.firstByte?_append hopen]
  have hstop : Text.lastByte? ')' text.toList = some (Text.byteLength (callee ++ '(' :: list)) := by
    rw [hends, Text.lastByte?_append _ List.not_mem_nil]
  have hsize : text.utf8ByteSize = Text.byteLength (callee ++ '(' :: list) + 1 := by
    rw [Text.utf8ByteSize_eq, hends, Text.byteLength_append]
    rfl
  have hcallee : Text.slice? 0 (Text.byteLength callee) text.toList = some callee := by
    rw [htext]
    exact Text.slice?_append [] callee _
  have hlist : Text.slice? (Text.byteLength callee + 1) (Text.byteLength (callee ++ '(' :: list))
      text.toList = some list := by
    have hslice := Text.slice?_append (callee ++ ['(']) list [')']
    have hopened : Text.byteLength (callee ++ ['(']) = Text.byteLength callee + 1 := by
      rw [Text.byteLength_append]
      rfl
    rw [hopened] at hslice
    simpa only [htext, List.append_assoc, List.singleton_append] using hslice
  have hnonzero : Text.byteLength callee ≠ 0 := mt Text.byteLength_eq_zero_iff.1 hne
  have hbefore : Text.byteLength callee < Text.byteLength (callee ++ '(' :: list) := by
    rw [Text.byteLength_append, Text.byteLength_cons]
    have hpos : 0 < '('.utf8Size := Char.utf8Size_pos _
    omega
  simp only [cutParens?, hstart, hstop, if_neg hnonzero, hsize, hbefore, hcallee, hlist, and_self,
    if_true, bind, Option.bind, pure]

/-- A text without a callee and a list is cut at no position. -/
theorem cutParens?_of_none {text : String} (h : splitParens? text.toList = none) :
    cutParens? text = some none := by
  by_cases hopen : '(' ∈ text.toList
  · by_cases hclose : ')' ∈ text.toList
    · obtain ⟨callee, inner, htext, hcallee⟩ := List.eq_append_cons_of_mem hopen
      obtain ⟨front, back, hends, hback⟩ := exists_append_cons_last hclose
      have hstart : Text.firstByte? '(' text.toList = some (Text.byteLength callee) := by
        rw [htext, Text.firstByte?_append hcallee]
      have hstop : Text.lastByte? ')' text.toList = some (Text.byteLength front) := by
        rw [hends, Text.lastByte?_append front hback]
      have hsize : text.utf8ByteSize = Text.byteLength front + Text.byteLength back + 1 := by
        have hone : ')'.utf8Size = 1 := rfl
        rw [Text.utf8ByteSize_eq, hends, Text.byteLength_append, Text.byteLength_cons, hone]
        omega
      simp only [cutParens?, hstart, hstop, hsize]
      split
      · rfl
      · rename_i hnonzero
        refine if_neg fun hshape => ?_
        -- nothing stands behind the last closing parenthesis, so the text has a list
        have hnil : back = [] := Text.byteLength_eq_zero_iff.1 (by omega)
        have hlast : text.toList.getLast? = some ')' := by rw [hends, hnil, List.getLast?_concat]
        have hinner : inner.getLast? = some ')' := by
          rw [htext, List.getLast?_append_cons] at hlast
          cases inner with
          | nil => cases hlast
          | cons d rest => rwa [List.getLast?_cons_cons] at hlast
        have hne : callee ≠ [] := mt Text.byteLength_eq_zero_iff.2 hnonzero
        rw [htext, splitParens?_append_cons hcallee, if_pos ⟨hne, hinner⟩] at h
        cases h
    · rw [cutParens?, Text.lastByte?_of_not_mem hclose]
      cases Text.firstByte? '(' text.toList <;> rfl
  · simp only [cutParens?, Text.firstByte?_of_not_mem hopen]

/-- Cutting by positions in bytes takes a text apart as reading it character by
character does: no position falls short of the start of the text, and none lies
within a character. -/
@[simp] theorem cutParens?_eq (text : String) :
    cutParens? text = some (splitParens? text.toList) := by
  cases hparts : splitParens? text.toList with
  | some parts =>
    obtain ⟨hne, hopen, htext⟩ := splitParens?_eq_some_iff.1 hparts
    exact cutParens?_of_parts hne hopen htext
  | none => exact cutParens?_of_none hparts

end Switchboard.Call
