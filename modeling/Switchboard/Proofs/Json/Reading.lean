import Mathlib.Data.List.TakeWhile
import Switchboard.Json.Parser
import Switchboard.Json.Printer

/-!
# JSON texts that are read back

What the compact form of a value spells is that value again, where its numbers
are integers that fit sixty-four bits and it is not nested deeper than a text
may be.  Fractions are left out: their digits are machine arithmetic.

## Main definitions

* `Json.Readable depth v`: such a value, nested at most so deep.

## Main statements

* `Json.unescape?_quoted`: a text is read back from its quoted form.
* `Json.ofNumeral?_intChars`: an integer is read back from its numeral.
* `Json.parse?_compact`: a value is read back, in canonical form.
-/

namespace Switchboard.Json

/-! ## Texts -/

theorem textUnits?_char {c : Char} {rest after : List Char} {units : List TextUnit}
    (hquote : c ≠ '"') (hslash : c ≠ '\\') (hlarge : ¬ c.toNat < 32)
    (h : textUnits? rest = some (units, after)) :
    textUnits? (c :: rest) = some (.char c :: units, after) := by
  rw [textUnits?]
  · simp [hlarge, h]
  · exact fun hc => hquote hc
  · exact fun _ _ _ _ _ hc => absurd hc hslash
  · exact fun _ _ hc => absurd hc hslash

theorem textUnits?_escape {c e : Char} {rest after : List Char} {units : List TextUnit}
    (hletter : c ≠ 'u') (hescaped : escaped? c = some e)
    (h : textUnits? rest = some (units, after)) :
    textUnits? ('\\' :: c :: rest) = some (.char e :: units, after) := by
  rw [textUnits?]
  · simp [hescaped, h]
  · exact fun _ _ _ _ _ hc => absurd hc hletter

theorem textUnits?_half {a b c d : Char} {n : Nat} {rest after : List Char}
    {units : List TextUnit} (hnumber : hexNumber? [a, b, c, d] = some n)
    (h : textUnits? rest = some (units, after)) :
    textUnits? ('\\' :: 'u' :: a :: b :: c :: d :: rest) = some (.half n :: units, after) := by
  rw [textUnits?]
  simp [hnumber, h]

/-- A control character is no half of another character. -/
theorem joinUnits?_half {n : Nat} (hsmall : n < 32) (units : List TextUnit) :
    joinUnits? (.half n :: units) = (joinUnits? units).map (Char.ofNat n :: ·) := by
  have hhigh : isHighHalf n = false := by
    simp only [isHighHalf, Bool.and_eq_false_iff, decide_eq_false_iff_not]
    omega
  have hlow : isLowHalf n = false := by
    simp only [isLowHalf, Bool.and_eq_false_iff, decide_eq_false_iff_not]
    omega
  rcases units with _ | ⟨_ | low, rest⟩ <;> simp [joinUnits?, hhigh, hlow]

/-- Behind its escape a character is read as one unit, which is joined as it. -/
theorem textUnits?_escapeChar (c : Char) {rest after : List Char} {units : List TextUnit}
    (h : textUnits? rest = some (units, after)) :
    ∃ unit, textUnits? (escapeChar c ++ rest) = some (unit :: units, after) ∧
      joinUnits? (unit :: units) = (joinUnits? units).map (c :: ·) := by
  have hchar : joinUnits? (.char c :: units) = (joinUnits? units).map (c :: ·) := by
    rw [joinUnits?]
  have hletter : ∀ {letter : Char}, letter ≠ 'u' → escaped? letter = some c →
      ∃ unit, textUnits? (['\\', letter] ++ rest) = some (unit :: units, after) ∧
        joinUnits? (unit :: units) = (joinUnits? units).map (c :: ·) :=
    fun hne hescaped => ⟨.char c, textUnits?_escape hne hescaped h, hchar⟩
  have hofNat : ∀ n, c.toNat = n → some (Char.ofNat n) = some c :=
    fun n hn => hn ▸ congrArg some (Char.ofNat_toNat c)
  unfold escapeChar
  split
  · exact hletter (by decide) (by subst c; rfl)
  split
  · exact hletter (by decide) (by subst c; rfl)
  split
  · exact hletter (by decide) (by subst c; rfl)
  split
  · exact hletter (by decide) (by subst c; rfl)
  split
  · exact hletter (by decide) (by subst c; rfl)
  split
  · rename_i hc
    exact hletter (by decide) (hofNat 8 hc)
  split
  · rename_i hc
    exact hletter (by decide) (hofNat 12 hc)
  split
  · rename_i hsmall
    have hdigits : ∀ n < 32, hexNumber? ['0', '0', hexDigit (n / 16), hexDigit (n % 16)] =
        some n := by decide
    refine ⟨.half c.toNat, textUnits?_half (hdigits _ hsmall) h, ?_⟩
    rw [joinUnits?_half hsmall, Char.ofNat_toNat]
  · rename_i hquote hslash _ _ _ _ _ hlarge
    exact ⟨.char c, textUnits?_char hquote hslash hlarge h, hchar⟩

theorem quotedChars_append (s : String) (rest : List Char) :
    quotedChars s ++ rest = '"' :: (s.toList.flatMap escapeChar ++ '"' :: rest) := by
  simp [quotedChars]

/-- A text is read back from its quoted form. -/
theorem unescape?_quoted (s : String) (rest : List Char) :
    unescape? (s.toList.flatMap escapeChar ++ '"' :: rest) = some (s, rest) := by
  have hchars : ∀ cs : List Char, ∃ units,
      textUnits? (cs.flatMap escapeChar ++ '"' :: rest) = some (units, rest) ∧
        joinUnits? units = some cs := by
    intro cs
    induction cs with
    | nil => exact ⟨[], by rw [List.flatMap_nil, List.nil_append, textUnits?], rfl⟩
    | cons c cs ih =>
      obtain ⟨units, hunits, hjoin⟩ := ih
      obtain ⟨unit, hunit, hjoins⟩ := textUnits?_escapeChar c hunits
      exact ⟨unit :: units, by rw [List.flatMap_cons, List.append_assoc, hunit],
        by rw [hjoins, hjoin, Option.map_some]⟩
  obtain ⟨units, hunits, hjoin⟩ := hchars s.toList
  simp [unescape?, hunits, hjoin]

/-! ## Numerals -/

/-- The digits of a positive number start with one that is not zero. -/
theorem exists_toDigits_eq_cons {n : Nat} (hpos : 0 < n) :
    ∃ c rest, Nat.toDigits 10 n = c :: rest ∧ c ≠ '0' := by
  have hdigit : ∀ n < 10, 0 < n → n.digitChar ≠ '0' := by decide
  induction n using Nat.strongRecOn with
  | ind n ih =>
    by_cases hlt : n < 10
    · exact ⟨_, _, Nat.toDigits_of_lt_base hlt, hdigit n hlt hpos⟩
    · obtain ⟨c, rest, hdigits, hne⟩ := ih (n / 10) (by omega) (by omega)
      refine ⟨c, rest ++ [(n % 10).digitChar], ?_, hne⟩
      rw [Nat.toDigits_of_base_le (by decide) (Nat.le_of_not_lt hlt), hdigits, List.cons_append]

@[simp] theorem isWhole_toDigits (n : Nat) : isWhole (Nat.toDigits 10 n) = true := by
  rcases Nat.eq_zero_or_pos n with rfl | hpos
  · rfl
  · obtain ⟨c, rest, hdigits, hne⟩ := exists_toDigits_eq_cons hpos
    rw [hdigits, isWhole]
    · simpa using hne
    · exact fun hc => absurd hc hne

theorem isDigit_of_mem_toDigits {n : Nat} {c : Char} (h : c ∈ Nat.toDigits 10 n) :
    c.isDigit = true :=
  Nat.isDigit_of_mem_toDigits (by decide) (by decide) h

@[simp] theorem spanDigits_toDigits (n : Nat) :
    Decimal.spanDigits (Nat.toDigits 10 n) = (Nat.toDigits 10 n, []) := by
  rw [Decimal.spanDigits, List.takeWhile_eq_self_iff.2 fun c => isDigit_of_mem_toDigits,
    List.dropWhile_eq_nil_iff.2 fun c => isDigit_of_mem_toDigits]

/-- The integers that a numeral without point and exponent is read as. -/
def FitsNumeral (n : Int) : Prop :=
  Decimal.int64Min ≤ n ∧ n ≤ Decimal.word64Max

theorem fitsNumeral_of_isInt64 {n : Int} (h : Decimal.isInt64 n = true) : FitsNumeral n := by
  simp only [Decimal.isInt64, Bool.and_eq_true, decide_eq_true_eq] at h
  exact ⟨h.1, Int.le_trans h.2 (by decide)⟩

/-- An integer is read back from its numeral. -/
theorem ofNumeral?_intChars {n : Int} (h : FitsNumeral n) :
    Number.ofNumeral? (Decimal.intChars n) = some (.int n) := by
  have hvalue : ∀ m, Nat.ofDigitChars 10 (Nat.toDigits 10 m) 0 = m := fun m =>
    Nat.ofDigitChars_toDigits (by decide) (by decide)
  obtain ⟨hmin, hmax⟩ := h
  cases n with
  | ofNat m =>
    have hsign : ((Nat.toDigits 10 m).head? == some '-') = false := by
      rw [beq_eq_false_iff_ne]
      intro hhead
      exact absurd (isDigit_of_mem_toDigits (List.mem_of_head? hhead)) (by decide)
    have hle : m ≤ Decimal.word64Max := Int.ofNat_le.1 hmax
    simp [Number.ofNumeral?, Decimal.intChars, hsign, Number.ofWhole, hvalue, hle]
  | negSucc m =>
    have hle : m + 1 ≤ 9223372036854775808 := by
      simp only [Decimal.int64Min] at hmin
      omega
    simp [Number.ofNumeral?, Decimal.intChars, Number.ofWhole, hvalue, hle, Int.negSucc_eq]

theorem isNumeralChar_of_mem_intChars {n : Int} {c : Char} (h : c ∈ Decimal.intChars n) :
    isNumeralChar c = true := by
  cases n with
  | ofNat m => simp [isNumeralChar, isDigit_of_mem_toDigits h]
  | negSucc m =>
    rcases List.mem_cons.1 h with rfl | h
    · rfl
    · simp [isNumeralChar, isDigit_of_mem_toDigits h]

/-- A numeral that is read has a first character. -/
theorem exists_intChars_eq_cons {n : Int} (h : FitsNumeral n) :
    ∃ c cs, Decimal.intChars n = c :: cs ∧ isNumeralChar c = true := by
  cases hcs : Decimal.intChars n with
  | nil =>
    have hread := ofNumeral?_intChars h
    rw [hcs] at hread
    cases hread
  | cons c cs =>
    exact ⟨c, cs, rfl, isNumeralChar_of_mem_intChars (hcs ▸ List.mem_cons_self)⟩

/-! ## Values -/

/-- A text that does not go on with a numeral. -/
def NoNumeral (cs : List Char) : Prop :=
  ∀ c ∈ cs.head?, isNumeralChar c = false

theorem noNumeral_cons {c : Char} (rest : List Char) (h : isNumeralChar c = false) :
    NoNumeral (c :: rest) := by
  rintro _ ⟨⟩
  exact h

theorem skipSpace_cons {c : Char} (h : isSpace c = false) (cs : List Char) :
    skipSpace (c :: cs) = c :: cs := by
  rw [skipSpace, List.dropWhile_cons_of_neg (by simp [h])]

theorem isSpace_of_isNumeralChar {c : Char} (h : isNumeralChar c = true) : isSpace c = false := by
  have hne : ∀ d, isNumeralChar d = false → (c == d) = false := fun d hd =>
    beq_eq_false_iff_ne.2 fun he => by rw [he, hd] at h; cases h
  simp only [isSpace, hne _ (by decide : isNumeralChar ' ' = false),
    hne _ (by decide : isNumeralChar '\n' = false), hne _ (by decide : isNumeralChar '\r' = false),
    hne _ (by decide : isNumeralChar '\t' = false), Bool.or_false]

/-- What begins as a numeral is read as one. -/
theorem value?_numeral {c : Char} {cs : List Char} (fuel depth : Nat)
    (h : isNumeralChar c = true) :
    value? (fuel + 1) depth (c :: cs) =
      (Number.ofNumeral? ((c :: cs).takeWhile isNumeralChar)).map fun n =>
        (.num n, (c :: cs).dropWhile isNumeralChar) := by
  have hne : ∀ d, isNumeralChar d = false → c ≠ d := fun d hd he => by
    rw [he, hd] at h
    cases h
  rw [value?, skipSpace_cons (isSpace_of_isNumeralChar h)]
  split
  case h_1 => contradiction
  case h_8 => rfl
  all_goals
    rename_i heq
    exact absurd (List.cons.inj heq).1 (hne _ (by decide))

/-- An integer is read back. -/
theorem value?_int {n : Int} (h : FitsNumeral n) (fuel depth : Nat) {rest : List Char}
    (hrest : NoNumeral rest) :
    value? (fuel + 1) depth (Decimal.intChars n ++ rest) = some (.num (.int n), rest) := by
  have htake : (Decimal.intChars n ++ rest).takeWhile isNumeralChar = Decimal.intChars n := by
    rw [List.takeWhile_append_of_pos fun c => isNumeralChar_of_mem_intChars]
    cases rest with
    | nil => simp
    | cons c rest => simp [hrest c rfl]
  have hdrop : (Decimal.intChars n ++ rest).dropWhile isNumeralChar = rest := by
    rw [List.dropWhile_append_of_pos fun c => isNumeralChar_of_mem_intChars]
    cases rest with
    | nil => rfl
    | cons c rest => simp [hrest c rfl]
  obtain ⟨c, cs, hcs, hnumeral⟩ := exists_intChars_eq_cons h
  rw [hcs] at htake hdrop ⊢
  rw [List.cons_append] at htake hdrop ⊢
  rw [value?_numeral fuel depth hnumeral, htake, hdrop, ← hcs, ofNumeral?_intChars h]
  rfl

/-- A value of integers that fit numerals, nested at most so deep. -/
inductive Readable : Nat → Json → Prop
  | null {depth : Nat} : Readable depth .null
  | bool {depth : Nat} (b : Bool) : Readable depth (.bool b)
  | int {depth : Nat} {n : Int} (h : FitsNumeral n) : Readable depth (.num (.int n))
  | str {depth : Nat} (s : String) : Readable depth (.str s)
  | arr {depth : Nat} {items : List Json} (h : ∀ v ∈ items, Readable depth v) :
      Readable (depth + 1) (.arr items)
  | obj {depth : Nat} {fields : List (String × Json)} (h : ∀ row ∈ fields, Readable depth row.2) :
      Readable (depth + 1) (.obj fields)

/-- With fuel for its characters a value is read back from the start of a text. -/
def ReadBack (depth : Nat) (v : Json) : Prop :=
  ∀ fuel rest, v.chars.length < fuel → NoNumeral rest →
    value? fuel depth (v.chars ++ rest) = some (v, rest)

theorem items?_chars {depth : Nat} {v : Json} {items : List Json} {fuel : Nat} (rest : List Char)
    (h : ∀ w ∈ v :: items, ReadBack depth w)
    (hfuel : (v.chars ++ restItems items).length < fuel) :
    items? fuel depth (v.chars ++ (restItems items ++ rest)) = some (v :: items, rest) := by
  induction items generalizing v fuel with
  | nil =>
    obtain ⟨fuel, rfl⟩ : ∃ n, fuel = n + 1 := ⟨fuel - 1, by omega⟩
    simp only [restItems, List.length_append, List.length_cons, List.length_nil] at hfuel
    have hv := h v List.mem_cons_self fuel (']' :: rest) (by omega)
      (noNumeral_cons _ (by decide))
    rw [items?, restItems, List.cons_append, List.nil_append, hv]
    rfl
  | cons w items ih =>
    obtain ⟨fuel, rfl⟩ : ∃ n, fuel = n + 1 := ⟨fuel - 1, by omega⟩
    rw [List.forall_mem_cons] at h
    simp only [restItems, List.length_append, List.length_cons] at hfuel
    have hv := h.1 fuel (',' :: (w.chars ++ (restItems items ++ rest))) (by omega)
      (noNumeral_cons _ (by decide))
    have hrest := ih h.2 (by rw [List.length_append]; omega : _ < fuel)
    rw [items?, restItems, List.cons_append, List.append_assoc, hv]
    simp [skipSpace, isSpace, hrest]

/-- The last field is read with the bracket behind it. -/
theorem fieldList?_last {fuel depth : Nat} {v : Json} {cs after : List Char} (key : String)
    (h : value? fuel depth cs = some (v, '\x7d' :: after)) :
    fieldList? (fuel + 1) depth (quotedChars key ++ ':' :: cs) = some ([(key, v)], after) := by
  rw [fieldList?, quotedChars_append, skipSpace_cons (by decide)]
  simp [unescape?_quoted, skipSpace_cons (by decide : isSpace ':' = false),
    skipSpace_cons (by decide : isSpace '\x7d' = false), h]

/-- Another field is read with the fields behind it. -/
theorem fieldList?_next {fuel depth : Nat} {v : Json} {cs rest after : List Char}
    {fields : List (String × Json)} (key : String)
    (h : value? fuel depth cs = some (v, ',' :: rest))
    (hrest : fieldList? fuel depth rest = some (fields, after)) :
    fieldList? (fuel + 1) depth (quotedChars key ++ ':' :: cs) =
      some ((key, v) :: fields, after) := by
  rw [fieldList?, quotedChars_append, skipSpace_cons (by decide)]
  simp [unescape?_quoted, skipSpace_cons (by decide : isSpace ':' = false),
    skipSpace_cons (by decide : isSpace ',' = false), h, hrest]

theorem fieldList?_chars {depth : Nat} {key : String} {v : Json} {fields : List (String × Json)}
    {fuel : Nat} (rest : List Char) (hv : ReadBack depth v)
    (h : ∀ row ∈ fields, ReadBack depth row.2)
    (hfuel : (v.chars ++ restFields fields).length < fuel) :
    fieldList? fuel depth
        (quotedChars key ++ ':' :: (v.chars ++ (restFields fields ++ rest))) =
      some ((key, v) :: fields, rest) := by
  induction fields generalizing key v fuel with
  | nil =>
    obtain ⟨fuel, rfl⟩ : ∃ n, fuel = n + 1 := ⟨fuel - 1, by omega⟩
    simp only [restFields, List.length_append, List.length_cons, List.length_nil] at hfuel
    have hfirst := hv fuel ('\x7d' :: rest) (by omega) (noNumeral_cons _ (by decide))
    rw [restFields, List.cons_append, List.nil_append]
    exact fieldList?_last key hfirst
  | cons row fields ih =>
    obtain ⟨fuel, rfl⟩ : ∃ n, fuel = n + 1 := ⟨fuel - 1, by omega⟩
    obtain ⟨key', w⟩ := row
    rw [List.forall_mem_cons] at h
    simp only [restFields, List.length_append, List.length_cons] at hfuel
    have hfirst := hv fuel
      (',' :: (quotedChars key' ++ ':' :: (w.chars ++ (restFields fields ++ rest)))) (by omega)
      (noNumeral_cons _ (by decide))
    have hothers := @ih key' w fuel h.1 h.2 (by rw [List.length_append]; omega)
    rw [restFields, List.cons_append, List.append_assoc, List.cons_append, List.append_assoc]
    exact fieldList?_next key hfirst hothers

/-- A value starts with no space and no closing bracket. -/
theorem Readable.exists_chars_eq_cons {depth : Nat} {v : Json} (h : Readable depth v) :
    ∃ c cs, v.chars = c :: cs ∧ isSpace c = false ∧ c ≠ ']' := by
  cases h with
  | null => exact ⟨'n', _, rfl, by decide, by decide⟩
  | bool b => cases b <;> exact ⟨_, _, rfl, by decide, by decide⟩
  | int hfits =>
    obtain ⟨c, cs, hcs, hnumeral⟩ := exists_intChars_eq_cons hfits
    exact ⟨c, cs, hcs, isSpace_of_isNumeralChar hnumeral,
      fun he => by rw [he] at hnumeral; cases hnumeral⟩
  | str s => exact ⟨'"', _, rfl, by decide, by decide⟩
  | @arr depth items _ => cases items <;> exact ⟨'[', _, rfl, by decide, by decide⟩
  | @obj depth fields _ => cases fields <;> exact ⟨'\x7b', _, rfl, by decide, by decide⟩

theorem value?_arr {fuel depth : Nat} {v : Json} {items : List Json} {rest : List Char}
    (hreadable : Readable depth v) (h : ∀ w ∈ v :: items, ReadBack depth w)
    (hfuel : (v.chars ++ restItems items).length < fuel) :
    value? (fuel + 1) (depth + 1) ('[' :: (v.chars ++ (restItems items ++ rest))) =
      some (.arr (v :: items), rest) := by
  have hitems := items?_chars rest h hfuel
  obtain ⟨c, cs, hcs, hspace, hne⟩ := hreadable.exists_chars_eq_cons
  rw [hcs, List.cons_append] at hitems ⊢
  rw [value?, skipSpace_cons (by decide)]
  simp only [skipSpace_cons hspace]
  split
  · rename_i heq
    exact absurd (List.cons.inj heq).1 hne
  · rw [hitems]
    rfl

theorem value?_obj {fuel depth : Nat} {key : String} {v : Json} {fields : List (String × Json)}
    {rest : List Char} (hv : ReadBack depth v) (h : ∀ row ∈ fields, ReadBack depth row.2)
    (hfuel : (v.chars ++ restFields fields).length < fuel) :
    value? (fuel + 1) (depth + 1)
        ('\x7b' :: (quotedChars key ++ ':' :: (v.chars ++ (restFields fields ++ rest)))) =
      some (.obj ((key, v) :: fields), rest) := by
  have hfields := @fieldList?_chars depth key v fields fuel rest hv h hfuel
  rw [quotedChars_append] at hfields ⊢
  rw [value?, skipSpace_cons (by decide)]
  simp only [skipSpace_cons (by decide : isSpace '"' = false)]
  split
  · rename_i heq
    exact absurd (List.cons.inj heq).1 (by decide)
  · rw [hfields]
    rfl

/-- A readable value is read back. -/
theorem Readable.readBack {depth : Nat} {v : Json} (h : Readable depth v) : ReadBack depth v := by
  induction h with
  | null =>
    rintro (_ | fuel) rest hfuel -
    · cases hfuel
    · rfl
  | bool b =>
    rintro (_ | fuel) rest hfuel -
    · cases hfuel
    · cases b <;> rfl
  | int hfits =>
    rintro (_ | fuel) rest hfuel hrest
    · cases hfuel
    · exact value?_int hfits fuel _ hrest
  | str s =>
    rintro (_ | fuel) rest hfuel -
    · cases hfuel
    · rw [chars, quotedChars_append, value?, skipSpace_cons (by decide)]
      simp only [unescape?_quoted, Option.map_some]
  | @arr depth items hreadable ih =>
    rintro (_ | fuel) rest hfuel -
    · cases hfuel
    cases items with
    | nil => rfl
    | cons v items =>
      rw [chars, List.cons_append, List.append_assoc]
      exact value?_arr (hreadable v List.mem_cons_self) ih (Nat.lt_of_succ_lt_succ hfuel)
  | @obj depth fields _ ih =>
    rintro (_ | fuel) rest hfuel -
    · cases hfuel
    cases fields with
    | nil => rfl
    | cons row fields =>
      obtain ⟨key, v⟩ := row
      rw [List.forall_mem_cons] at ih
      rw [chars, List.cons_append, List.append_assoc, List.cons_append, List.append_assoc]
      refine value?_obj ih.1 ih.2 ?_
      simp only [chars, List.length_append, List.length_cons] at hfuel ⊢
      omega

/-- What the compact form of a readable value spells is that value. -/
theorem document?_compact {v : Json} (h : Readable maxDepth v) : document? v.compact = some v := by
  have hread := h.readBack (v.chars.length + 1) [] (Nat.lt_succ_self _) (by rintro _ ⟨⟩)
  rw [List.append_nil] at hread
  simp only [document?, compact, String.toList_ofList, hread]
  rfl

/-- What the compact form of a readable value spells is that value, in canonical
form. -/
theorem parse?_compact {v : Json} (h : Readable maxDepth v) :
    parse? v.compact = some v.canonical := by
  rw [parse?, document?_compact h, Option.map_some]

end Switchboard.Json
