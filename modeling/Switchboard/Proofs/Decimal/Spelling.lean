import Mathlib.Data.List.TakeWhile
import Switchboard.Decimal.Literal

/-!
# What spells a number

An integer is spelled with digits, and a decimal with digits around a point and an
exponent; the sign, the point and the exponent may be left out.  Reading accepts just
these spellings, with the number that they spell.

## Main definitions

* `Decimal.SpellsInteger`, `Decimal.SpellsDecimal`: the two ways of spelling.
* `Decimal.SpellsInt64`, `Decimal.SpellsFinite`: spellings of what a machine can hold.

## Main statements

* `Decimal.int64?_eq_some_iff`: which integers are read.
* `Decimal.finite?_eq_some_iff`: which fractions are read.
-/

namespace Switchboard.Decimal

/-! ## Spellings -/

/-- A text is an unsigned one behind a sign, if there is one. -/
inductive Signed (unsigned : List Char) : Bool → List Char → Prop
  | bare : Signed unsigned false unsigned
  | plus : Signed unsigned false ('+' :: unsigned)
  | minus : Signed unsigned true ('-' :: unsigned)

def AllDigits (cs : List Char) : Prop :=
  ∀ c ∈ cs, c.isDigit = true

/-- An integer: an optional sign, and one digit or more. -/
def SpellsInteger (cs : List Char) (n : Int) : Prop :=
  ∃ digits negative, Signed digits negative cs ∧ digits ≠ [] ∧ AllDigits digits ∧
    n = if negative then -(Nat.ofDigitChars 10 digits 0 : Int) else Nat.ofDigitChars 10 digits 0

/-- An exponent: nothing, or the letter `e` and an integer. -/
inductive SpellsExponent : List Char → Int → Prop
  | absent : SpellsExponent [] 0
  | present {letter : Char} {cs : List Char} {e : Int} (hletter : letter = 'e' ∨ letter = 'E')
      (h : SpellsInteger cs e) : SpellsExponent (letter :: cs) e

/-- What stands behind the digits of a decimal: a point, more digits and an exponent, or
the exponent alone. -/
inductive Pointed (fraction exponent : List Char) : List Char → Prop
  | bare (h : fraction = []) : Pointed fraction exponent exponent
  | point : Pointed fraction exponent ('.' :: (fraction ++ exponent))

/-- A decimal: an optional sign, digits with or without a point among them, at least one
in all, and an exponent. -/
def SpellsDecimal (cs : List Char) (l : Literal) : Prop :=
  ∃ whole fraction exponent rest e, Signed (whole ++ rest) l.negative cs ∧
    Pointed fraction exponent rest ∧ AllDigits whole ∧ AllDigits fraction ∧ whole ++ fraction ≠ [] ∧
    SpellsExponent exponent e ∧ l.digits = whole ++ fraction ∧ l.exponent = e - fraction.length

def SpellsInt64 (cs : List Char) (n : Int) : Prop :=
  SpellsInteger cs n ∧ int64Min ≤ n ∧ n ≤ int64Max

/-- A decimal, and the number in binary64 that is nearest to it, if there is one. -/
def SpellsFinite (cs : List Char) (x : Float) : Prop :=
  ∃ l, SpellsDecimal cs l ∧ l.toFloat = x ∧ x.isFinite = true

/-! ## Signs -/

theorem signed_splitSign (cs : List Char) : Signed (splitSign cs).2 (splitSign cs).1 cs := by
  unfold splitSign
  split
  · exact .minus
  · exact .plus
  · exact .bare

/-- A sign is split off an unsigned text. -/
theorem Signed.splitSign_eq {unsigned cs : List Char} {negative : Bool}
    (h : Signed unsigned negative cs) (hminus : unsigned.head? ≠ some '-')
    (hplus : unsigned.head? ≠ some '+') : splitSign cs = (negative, unsigned) := by
  cases h with
  | bare =>
    unfold splitSign
    split
    · exact absurd rfl hminus
    · exact absurd rfl hplus
    · rfl
  | plus => rfl
  | minus => rfl

/-- The first character is that of the unsigned text, or a sign. -/
theorem Signed.head_eq {unsigned cs : List Char} {negative : Bool} {c : Char}
    (h : Signed unsigned negative cs) (hhead : cs.head? = some c) :
    unsigned.head? = some c ∨ c = '+' ∨ c = '-' := by
  cases h with
  | bare => exact Or.inl hhead
  | plus => exact Or.inr (Or.inl (Option.some.inj hhead).symm)
  | minus => exact Or.inr (Or.inr (Option.some.inj hhead).symm)

/-! ## Integers -/

theorem natural?_eq_some_iff {cs : List Char} {n : Nat} :
    natural? cs = some n ↔ cs ≠ [] ∧ AllDigits cs ∧ Nat.ofDigitChars 10 cs 0 = n := by
  simp [natural?, AllDigits, and_assoc]

theorem AllDigits.head {cs : List Char} (h : AllDigits cs) {c : Char} (hhead : cs.head? = some c) :
    c.isDigit = true :=
  h c (List.mem_of_head? hhead)

theorem AllDigits.head_ne {cs : List Char} (h : AllDigits cs) {c : Char} (hc : c.isDigit = false) :
    cs.head? ≠ some c := fun hhead => by
  rw [h.head hhead] at hc
  cases hc

theorem integer?_eq_map (cs : List Char) :
    integer? cs = (natural? (splitSign cs).2).map fun n : Nat =>
      if (splitSign cs).1 then -(n : Int) else n := by
  rcases hsplit : splitSign cs with ⟨_ | _, digits⟩ <;>
    cases hdigits : natural? digits <;> simp [integer?, hsplit, hdigits]

@[simp] theorem integer?_eq_some_iff {cs : List Char} {n : Int} :
    integer? cs = some n ↔ SpellsInteger cs n := by
  rw [integer?_eq_map, Option.map_eq_some_iff]
  constructor
  · rintro ⟨m, hm, rfl⟩
    obtain ⟨hne, hdigits, rfl⟩ := natural?_eq_some_iff.1 hm
    exact ⟨_, _, signed_splitSign cs, hne, hdigits, rfl⟩
  · rintro ⟨digits, negative, hsigned, hne, hdigits, rfl⟩
    rw [hsigned.splitSign_eq (hdigits.head_ne (by decide)) (hdigits.head_ne (by decide))]
    exact ⟨_, natural?_eq_some_iff.2 ⟨hne, hdigits, rfl⟩, rfl⟩

/-- The digits of an integer spell it. -/
theorem spellsInteger_intChars (n : Int) : SpellsInteger (intChars n) n := by
  have hdigits : ∀ m, AllDigits (Nat.toDigits 10 m) := fun m c hmem =>
    Nat.isDigit_of_mem_toDigits (by decide) (by decide) hmem
  have hvalue : ∀ m, Nat.ofDigitChars 10 (Nat.toDigits 10 m) 0 = m := fun m =>
    Nat.ofDigitChars_toDigits (by decide) (by decide)
  cases n with
  | ofNat m =>
    refine ⟨Nat.toDigits 10 m, false, .bare, Nat.toDigits_ne_nil, hdigits m, ?_⟩
    simp [hvalue]
  | negSucc m =>
    refine ⟨Nat.toDigits 10 (m + 1), true, .minus, Nat.toDigits_ne_nil, hdigits (m + 1), ?_⟩
    simp [hvalue, Int.negSucc_eq]

/-- An integer is read from a text exactly if the text spells it and it has sixty-four
bits. -/
@[simp] theorem int64?_eq_some_iff {cs : List Char} {n : Int} :
    int64? cs = some n ↔ SpellsInt64 cs n := by
  simp [int64?, isInt64, SpellsInt64, Option.filter_eq_some_iff]

/-! ## Fractions -/

@[simp] theorem exponent?_eq_some_iff {cs : List Char} {e : Int} :
    exponent? cs = some e ↔ SpellsExponent cs e := by
  cases cs with
  | nil =>
    constructor
    · rintro ⟨⟩
      exact .absent
    · rintro ⟨⟩
      rfl
  | cons letter rest =>
    rw [exponent?, Option.ite_none_right_eq_some, integer?_eq_some_iff]
    constructor
    · rintro ⟨hletter, h⟩
      exact .present hletter h
    · rintro ⟨⟩
      exact ⟨‹_›, ‹_›⟩

/-- An exponent starts with no digit and with no point. -/
theorem SpellsExponent.head_eq {cs : List Char} {e : Int} (h : SpellsExponent cs e) {c : Char}
    (hhead : cs.head? = some c) : c = 'e' ∨ c = 'E' := by
  cases h with
  | absent => cases hhead
  | present hletter _ => exact Option.some.inj hhead ▸ hletter

theorem spanDigits_append {digits rest : List Char} (hdigits : AllDigits digits)
    (hrest : ∀ c, rest.head? = some c → c.isDigit = false) :
    spanDigits (digits ++ rest) = (digits, rest) := by
  rw [spanDigits, List.takeWhile_append_of_pos hdigits, List.dropWhile_append_of_pos hdigits]
  cases rest with
  | nil => simp
  | cons c rest => simp [hrest c rfl]

theorem digits_spanDigits (cs : List Char) : AllDigits (spanDigits cs).1 := fun _ hmem =>
  List.mem_takeWhile_imp hmem

@[simp] theorem spanDigits_fst_append_snd (cs : List Char) :
    (spanDigits cs).1 ++ (spanDigits cs).2 = cs :=
  List.takeWhile_append_dropWhile

/-- The digits behind a point, if there is one, and what follows. -/
def behindPoint : List Char → List Char × List Char
  | '.' :: rest => spanDigits rest
  | rest => ([], rest)

theorem pointed_behindPoint (rest : List Char) :
    Pointed (behindPoint rest).1 (behindPoint rest).2 rest := by
  unfold behindPoint
  split
  · rename_i rest
    have hpoint := @Pointed.point (spanDigits rest).1 (spanDigits rest).2
    rwa [spanDigits_fst_append_snd] at hpoint
  · exact .bare rfl

theorem digits_behindPoint (rest : List Char) : AllDigits (behindPoint rest).1 := by
  unfold behindPoint
  split
  · exact digits_spanDigits _
  · exact fun _ hmem => absurd hmem List.not_mem_nil

/-- What stands behind digits is taken apart at its point. -/
theorem Pointed.behindPoint_eq {fraction exponent rest : List Char} {e : Int}
    (h : Pointed fraction exponent rest) (hdigits : AllDigits fraction)
    (hexponent : SpellsExponent exponent e) : behindPoint rest = (fraction, exponent) := by
  cases h with
  | bare hnone =>
    subst hnone
    unfold behindPoint
    split
    · rcases hexponent.head_eq rfl with hc | hc <;> cases hc
    · rfl
  | point =>
    refine spanDigits_append hdigits fun c hhead => ?_
    rcases hexponent.head_eq hhead with rfl | rfl <;> rfl

/-- What stands behind digits starts with no digit. -/
theorem Pointed.head_eq {fraction exponent rest : List Char} {e : Int}
    (h : Pointed fraction exponent rest) (hexponent : SpellsExponent exponent e) {c : Char}
    (hhead : rest.head? = some c) : c = '.' ∨ c = 'e' ∨ c = 'E' := by
  cases h with
  | bare hnone => exact Or.inr (hexponent.head_eq hhead)
  | point => exact Or.inl (Option.some.inj hhead).symm

/-- A decimal without its sign starts with a digit or a point. -/
theorem Pointed.head_append {whole fraction exponent rest : List Char}
    (h : Pointed fraction exponent rest) (hwhole : AllDigits whole)
    (hfilled : whole ++ fraction ≠ []) {c : Char} (hhead : (whole ++ rest).head? = some c) :
    c.isDigit = true ∨ c = '.' := by
  cases whole with
  | cons d ds => exact Or.inl (hwhole.head hhead)
  | nil =>
    cases h with
    | bare hnone => exact absurd hnone hfilled
    | point => exact Or.inr (Option.some.inj hhead).symm

theorem literal?_eq (cs : List Char) :
    literal? cs =
      let whole := spanDigits (splitSign cs).2
      let fraction := behindPoint whole.2
      if whole.1.isEmpty && fraction.1.isEmpty then none
      else
        (exponent? fraction.2).map fun e =>
          ⟨(splitSign cs).1, whole.1 ++ fraction.1, e - fraction.1.length⟩ := rfl

@[simp] theorem literal?_eq_some_iff {cs : List Char} {l : Literal} :
    literal? cs = some l ↔ SpellsDecimal cs l := by
  rw [literal?_eq]
  constructor
  · intro h
    simp only [Option.ite_none_left_eq_some, Option.map_eq_some_iff] at h
    obtain ⟨hfilled, e, he, rfl⟩ := h
    refine ⟨_, _, _, _, e, ?_, pointed_behindPoint _, digits_spanDigits _, digits_behindPoint _,
      by simpa using hfilled, exponent?_eq_some_iff.1 he, rfl, rfl⟩
    rw [spanDigits_fst_append_snd]
    exact signed_splitSign cs
  · rintro ⟨whole, fraction, exponent, rest, e, hsigned, hpointed, hwhole, hfraction, hfilled,
      hexponent, hdigits, hvalue⟩
    have hhead : ∀ sign : Char, sign.isDigit = false → sign ≠ '.' →
        (whole ++ rest).head? ≠ some sign := by
      intro sign hdigit hpoint heq
      rcases hpointed.head_append hwhole hfilled heq with h | h
      · rw [hdigit] at h
        cases h
      · exact hpoint h
    have hsplit := hsigned.splitSign_eq (hhead '-' rfl (by decide)) (hhead '+' rfl (by decide))
    have hspan : spanDigits (whole ++ rest) = (whole, rest) := by
      refine spanDigits_append hwhole fun c hc => ?_
      rcases hpointed.head_eq hexponent hc with rfl | rfl | rfl <;> rfl
    have hempty : (whole.isEmpty && fraction.isEmpty) = false := by
      simpa using hfilled
    simp only [hsplit, hspan, hpointed.behindPoint_eq hfraction hexponent, hempty,
      exponent?_eq_some_iff.2 hexponent, Bool.false_eq_true, if_false, Option.map_some]
    rw [← hdigits, ← hvalue]

/-- A fraction is read from a text exactly if the text spells a decimal that it is
nearest to. -/
@[simp] theorem finite?_eq_some_iff {cs : List Char} {x : Float} :
    finite? cs = some x ↔ SpellsFinite cs x := by
  rw [finite?, SpellsFinite, Option.filter_eq_some_iff, Option.map_eq_some_iff]
  simp only [literal?_eq_some_iff, ← exists_and_right, and_assoc]

/-! ## First characters -/

theorem SpellsInteger.ne_nil {cs : List Char} {n : Int} (h : SpellsInteger cs n) : cs ≠ [] := by
  obtain ⟨digits, negative, hsigned, hne, -, -⟩ := h
  cases hsigned with
  | bare => exact hne
  | plus => exact List.cons_ne_nil _ _
  | minus => exact List.cons_ne_nil _ _

/-- An integer starts with a digit or a sign. -/
theorem SpellsInteger.head_eq {cs : List Char} {n : Int} (h : SpellsInteger cs n) {c : Char}
    (hhead : cs.head? = some c) : c.isDigit = true ∨ c = '+' ∨ c = '-' := by
  obtain ⟨digits, negative, hsigned, -, hdigits, -⟩ := h
  exact (hsigned.head_eq hhead).imp_left hdigits.head

/-- A decimal starts with a digit, a point or a sign. -/
theorem SpellsDecimal.head_eq {cs : List Char} {l : Literal} (h : SpellsDecimal cs l) {c : Char}
    (hhead : cs.head? = some c) : (c.isDigit = true ∨ c = '.') ∨ c = '+' ∨ c = '-' := by
  obtain ⟨whole, fraction, exponent, rest, e, hsigned, hpointed, hwhole, -, hfilled, -, -⟩ := h
  exact (hsigned.head_eq hhead).imp_left (hpointed.head_append hwhole hfilled)

end Switchboard.Decimal
