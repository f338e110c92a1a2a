/-!
# Positions in bytes

A place in a text can be given by the bytes in front of it.  Such a position cuts
the text only if it lies between two characters or at an end, so what cuts by
positions has no answer for the others.

## Main definitions

* `Text.byteLength`: the bytes that characters take.
* `Text.firstByte?`, `Text.lastByte?`: where a character stands.
* `Text.slice?`: what stands between two positions.

## Main statements

* `Text.splitAtByte?_eq_some_iff`: which positions cut a text.
* `Text.slice?_append`: what stands between two that do.
-/

namespace Switchboard.Text

/-- The bytes that characters take. -/
def byteLength : List Char → Nat
  | [] => 0
  | c :: rest => c.utf8Size + byteLength rest

@[simp] theorem byteLength_nil : byteLength [] = 0 := rfl

@[simp] theorem byteLength_cons (c : Char) (rest : List Char) :
    byteLength (c :: rest) = c.utf8Size + byteLength rest := rfl

@[simp] theorem byteLength_append (front back : List Char) :
    byteLength (front ++ back) = byteLength front + byteLength back := by
  induction front with
  | nil => simp
  | cons c rest ih => simp [ih, Nat.add_assoc]

/-- The bytes of the characters are those of the text. -/
@[simp] theorem utf8ByteSize_ofList (cs : List Char) :
    (String.ofList cs).utf8ByteSize = byteLength cs := by
  induction cs with
  | nil => rfl
  | cons c rest ih =>
    have hcons : String.ofList (c :: rest) = String.singleton c ++ String.ofList rest := by
      rw [String.singleton_eq_ofList, ← String.ofList_append, List.singleton_append]
    simp [hcons, ih]

theorem utf8ByteSize_eq (s : String) : s.utf8ByteSize = byteLength s.toList := by
  rw [← utf8ByteSize_ofList, String.ofList_toList]

@[simp] theorem byteLength_eq_zero_iff {cs : List Char} : byteLength cs = 0 ↔ cs = [] := by
  cases cs with
  | nil => simp
  | cons c rest =>
    have hpos : 0 < c.utf8Size := c.utf8Size_pos
    simp only [byteLength_cons, reduceCtorEq, iff_false]
    omega

/-! ## Where a character stands -/

/-- The position of the first of a character. -/
def firstByte? (c : Char) : List Char → Option Nat
  | [] => none
  | d :: rest => if d = c then some 0 else (firstByte? c rest).map (d.utf8Size + ·)

/-- The position of the last of a character. -/
def lastByte? (c : Char) : List Char → Option Nat
  | [] => none
  | d :: rest =>
    match lastByte? c rest with
    | some n => some (d.utf8Size + n)
    | none => if d = c then some 0 else none

theorem firstByte?_of_not_mem {c : Char} {cs : List Char} (h : c ∉ cs) :
    firstByte? c cs = none := by
  induction cs with
  | nil => rfl
  | cons d rest ih =>
    rw [List.mem_cons, not_or] at h
    rw [firstByte?, if_neg (Ne.symm h.1), ih h.2, Option.map_none]

theorem firstByte?_append {c : Char} {front : List Char} (h : c ∉ front) (back : List Char) :
    firstByte? c (front ++ c :: back) = some (byteLength front) := by
  induction front with
  | nil => simp [firstByte?]
  | cons d rest ih =>
    rw [List.mem_cons, not_or] at h
    simp [firstByte?, Ne.symm h.1, ih h.2]

theorem lastByte?_of_not_mem {c : Char} {cs : List Char} (h : c ∉ cs) : lastByte? c cs = none := by
  induction cs with
  | nil => rfl
  | cons d rest ih =>
    rw [List.mem_cons, not_or] at h
    simp only [lastByte?, ih h.2, if_neg (Ne.symm h.1)]

theorem lastByte?_append (front : List Char) {c : Char} {back : List Char} (h : c ∉ back) :
    lastByte? c (front ++ c :: back) = some (byteLength front) := by
  induction front with
  | nil => simp [lastByte?, lastByte?_of_not_mem h]
  | cons d rest ih => simp only [List.cons_append, lastByte?, ih, byteLength_cons]

/-! ## Cutting at positions -/

/-- The characters in front of a position and behind it, if the position is one
between characters. -/
def splitAtByte? : Nat → List Char → Option (List Char × List Char)
  | 0, cs => some ([], cs)
  | _ + 1, [] => none
  | n + 1, c :: rest =>
    if c.utf8Size ≤ n + 1 then
      (splitAtByte? (n + 1 - c.utf8Size) rest).map fun parts => (c :: parts.1, parts.2)
    else none

/-- The characters between two positions.  There is no answer if the first lies
behind the second, or if one lies within a character or outside the text. -/
def slice? (start stop : Nat) (cs : List Char) : Option (List Char) := do
  let whole ← splitAtByte? stop cs
  let parts ← splitAtByte? start whole.1
  return parts.2

/-- A position cuts a text exactly if characters end there. -/
@[simp] theorem splitAtByte?_eq_some_iff {n : Nat} {cs front back : List Char} :
    splitAtByte? n cs = some (front, back) ↔ cs = front ++ back ∧ byteLength front = n := by
  induction n, cs using splitAtByte?.induct generalizing front with
  | case1 cs =>
    rw [splitAtByte?, Option.some.injEq, Prod.mk.injEq, byteLength_eq_zero_iff]
    constructor
    · rintro ⟨rfl, rfl⟩
      exact ⟨rfl, rfl⟩
    · rintro ⟨rfl, rfl⟩
      exact ⟨rfl, rfl⟩
  | case2 n =>
    rw [splitAtByte?]
    refine iff_of_false nofun ?_
    rintro ⟨hnil, hlength⟩
    rw [(List.append_eq_nil_iff.1 hnil.symm).1] at hlength
    cases hlength
  | case3 n c rest hfits ih =>
    rw [splitAtByte?, if_pos hfits, Option.map_eq_some_iff]
    constructor
    · rintro ⟨⟨front', back'⟩, hsplit, hparts⟩
      obtain ⟨rfl, rfl⟩ := Prod.mk.inj hparts
      obtain ⟨rfl, hlength⟩ := ih.1 hsplit
      refine ⟨rfl, ?_⟩
      rw [byteLength_cons, hlength]
      omega
    · rintro ⟨hcons, hlength⟩
      cases front with
      | nil => cases hlength
      | cons d front' =>
        obtain ⟨rfl, rfl⟩ := List.cons.inj hcons
        rw [byteLength_cons] at hlength
        exact ⟨(front', back), ih.2 ⟨rfl, by omega⟩, rfl⟩
  | case4 n c rest hlong =>
    rw [splitAtByte?, if_neg hlong]
    refine iff_of_false nofun ?_
    rintro ⟨hcons, hlength⟩
    cases front with
    | nil => cases hlength
    | cons d front' =>
      obtain ⟨rfl, -⟩ := List.cons.inj hcons
      rw [byteLength_cons] at hlength
      omega

@[simp] theorem slice?_append (front middle back : List Char) :
    slice? (byteLength front) (byteLength (front ++ middle)) (front ++ (middle ++ back)) =
      some middle := by
  have hwhole : splitAtByte? (byteLength (front ++ middle)) (front ++ (middle ++ back)) =
      some (front ++ middle, back) :=
    splitAtByte?_eq_some_iff.2 ⟨(List.append_assoc front middle back).symm, rfl⟩
  have hparts : splitAtByte? (byteLength front) (front ++ middle) = some (front, middle) :=
    splitAtByte?_eq_some_iff.2 ⟨rfl, rfl⟩
  simp only [slice?, hwhole, hparts, bind, Option.bind, pure]

end Switchboard.Text
