import Switchboard.Proofs.Json.Reading

/-!
# The commas of a written value

The compact form of a value has a comma between two members of an array or an
object, and the commas of its texts and keys, since these are not escaped.
Numbers have none, whatever their digits are.

## Main definitions

* `Json.commas v`: the commas of a value, by its members.

## Main statements

* `Json.isNumeralChar_of_mem_numberChars`: what numbers are written with.
* `Json.count_comma_chars`: the commas of the compact form.
-/

namespace Switchboard

/-! ## Numbers -/

namespace Decimal

theorem isDigit_of_mem_digitsAt {n : Nat} {g : Int} {c : Char}
    (h : c ∈ (Binary.digitsAt n g).digits) : c.isDigit = true := by
  have hmem : c ∈ (Nat.toDigits 10 n).reverse :=
    (List.dropWhile_sublist _).subset (List.mem_reverse.1 h)
  exact Json.isDigit_of_mem_toDigits (List.mem_reverse.1 hmem)

theorem isDigit_of_mem_shortest {b : Binary} {c : Char} (h : c ∈ b.shortest.digits) :
    c.isDigit = true := by
  unfold Binary.shortest at h
  dsimp only at h
  split at h <;> exact isDigit_of_mem_digitsAt h

end Decimal

namespace Json

open Decimal

theorem isNumeralChar_of_isDigit {c : Char} (h : c.isDigit = true) : isNumeralChar c = true := by
  simp [isNumeralChar, h]

theorem isNumeralChar_of_mem_pointChars {d : Digits} (hd : ∀ c ∈ d.digits, c.isDigit = true)
    {c : Char} (h : c ∈ pointChars d) : isNumeralChar c = true := by
  have hdigit : c ∈ d.digits → isNumeralChar c = true := fun hc =>
    isNumeralChar_of_isDigit (hd c hc)
  have hzeros : ∀ n, c ∈ List.replicate n '0' → isNumeralChar c = true := fun n hc =>
    (List.eq_of_mem_replicate hc) ▸ rfl
  unfold pointChars at h
  split at h
  · simp only [List.mem_cons, List.mem_append] at h
    rcases h with rfl | rfl | h | h
    · rfl
    · rfl
    · exact hzeros _ h
    · exact hdigit h
  · simp only [List.mem_append, List.mem_cons] at h
    rcases h with (h | h) | rfl | h
    · exact hdigit (List.mem_of_mem_take h)
    · exact hzeros _ h
    · rfl
    · split at h
      · exact hzeros 1 h
      · exact hdigit (List.mem_of_mem_drop h)

theorem isNumeralChar_of_mem_exponentChars {signed : Bool} {d : Digits}
    (hd : ∀ c ∈ d.digits, c.isDigit = true) {c : Char} (h : c ∈ exponentChars signed d) :
    isNumeralChar c = true := by
  simp only [exponentChars, List.mem_append, List.mem_cons] at h
  rcases h with (h | h) | rfl | h | h
  · exact isNumeralChar_of_isDigit (hd c (List.mem_of_mem_take h))
  · split at h
    · cases h
    · rcases List.mem_cons.1 h with rfl | h
      · rfl
      · exact isNumeralChar_of_isDigit (hd c (List.mem_of_mem_drop h))
  · rfl
  · split at h
    · rw [List.mem_singleton.1 h]
      rfl
    · cases h
  · exact isNumeralChar_of_mem_intChars h

/-- A fraction is written with the characters of numerals in every layout. -/
theorem isNumeralChar_of_mem_layout {layout : Layout} {x : Float} {c : Char}
    (h : c ∈ layout.chars x) : isNumeralChar c = true := by
  have hmagnitude : ∀ {b : Binary}, c ∈ (if b.mantissa = 0 then ['0', '.', '0']
      else if layout.usesPoint b.shortest.exponent then pointChars b.shortest
      else exponentChars layout.signedExponent b.shortest) → isNumeralChar c = true := by
    intro b hc
    split at hc
    · simp only [List.mem_cons, List.not_mem_nil, or_false] at hc
      rcases hc with rfl | rfl | rfl <;> rfl
    · split at hc
      · exact isNumeralChar_of_mem_pointChars (fun _ => isDigit_of_mem_shortest) hc
      · exact isNumeralChar_of_mem_exponentChars (fun _ => isDigit_of_mem_shortest) hc
  unfold Layout.chars at h
  dsimp only at h
  split at h
  · rcases List.mem_cons.1 h with rfl | h
    · rfl
    · exact hmagnitude h
  · exact hmagnitude h

theorem isNumeralChar_of_mem_numberChars {n : Number} {c : Char} (h : c ∈ numberChars n) :
    isNumeralChar c = true := by
  cases n with
  | int n => exact isNumeralChar_of_mem_intChars h
  | float x => exact isNumeralChar_of_mem_layout h

@[simp] theorem count_comma_numberChars (n : Number) : (numberChars n).count ',' = 0 :=
  List.count_eq_zero.2 fun h => absurd (isNumeralChar_of_mem_numberChars h) (by decide)

/-! ## Texts -/

/-- Escaping neither adds nor drops a comma. -/
@[simp] theorem count_comma_escapeChar (c : Char) : (escapeChar c).count ',' = [c].count ',' := by
  by_cases hcomma : c = ','
  · subst hcomma
    rfl
  · have hnot : ',' ∉ escapeChar c := by
      have hdigit : ∀ n < 16, ',' ≠ hexDigit n := by decide
      unfold escapeChar
      split_ifs with _ _ _ _ _ _ _ hcontrol
      iterate 7 · decide
      · simp [hdigit (c.toNat / 16) (by omega), hdigit (c.toNat % 16) (by omega)]
      · simpa using Ne.symm hcomma
    rw [List.count_eq_zero.2 hnot, List.count_eq_zero.2 (by simpa using Ne.symm hcomma)]

@[simp] theorem count_comma_quotedChars (s : String) :
    (quotedChars s).count ',' = s.toList.count ',' := by
  have hchars : ∀ cs : List Char, (cs.flatMap escapeChar).count ',' = cs.count ',' := by
    intro cs
    induction cs with
    | nil => rfl
    | cons c rest ih =>
      rw [List.flatMap_cons, List.count_append, ih, count_comma_escapeChar, ← List.count_append,
        List.singleton_append]
  simp [quotedChars, hchars]

/-! ## Values -/

mutual

/-- The commas of a value: one between two members of an array or an object, and
those of its texts and keys. -/
def commas : Json → Nat
  | .str s => s.toList.count ','
  | .arr items => (items.length - 1) + itemCommas items
  | .obj fields => (fields.length - 1) + fieldCommas fields
  | _ => 0

/-- The commas within the items of an array. -/
def itemCommas : List Json → Nat
  | [] => 0
  | v :: rest => commas v + itemCommas rest

/-- The commas within the fields of an object. -/
def fieldCommas : List (String × Json) → Nat
  | [] => 0
  | (key, v) :: rest => key.toList.count ',' + commas v + fieldCommas rest

end

mutual

/-- The compact form of a value has just its commas. -/
@[simp] theorem count_comma_chars (v : Json) : v.chars.count ',' = v.commas := by
  match v with
  | .null => rfl
  | .bool true => rfl
  | .bool false => rfl
  | .num n => exact count_comma_numberChars n
  | .str s => exact count_comma_quotedChars s
  | .arr [] => rfl
  | .arr (v :: rest) =>
    have hv := count_comma_chars v
    have hrest := count_comma_restItems rest
    rw [chars, List.count_cons_of_ne (by decide), List.count_append, hv, hrest, commas,
      itemCommas, List.length_cons]
    omega
  | .obj [] => rfl
  | .obj ((key, v) :: rest) =>
    have hv := count_comma_chars v
    have hrest := count_comma_restFields rest
    rw [chars, List.count_cons_of_ne (by decide), List.count_append, count_comma_quotedChars,
      List.count_cons_of_ne (by decide), List.count_append, hv, hrest, commas, fieldCommas,
      List.length_cons]
    omega

@[simp] theorem count_comma_restItems (items : List Json) :
    (restItems items).count ',' = items.length + itemCommas items := by
  match items with
  | [] => rfl
  | v :: rest =>
    have hv := count_comma_chars v
    have hrest := count_comma_restItems rest
    rw [restItems, List.count_cons_self, List.count_append, hv, hrest, itemCommas,
      List.length_cons]
    omega

@[simp] theorem count_comma_restFields (fields : List (String × Json)) :
    (restFields fields).count ',' = fields.length + fieldCommas fields := by
  match fields with
  | [] => rfl
  | (key, v) :: rest =>
    have hv := count_comma_chars v
    have hrest := count_comma_restFields rest
    rw [restFields, List.count_cons_self, List.count_append, count_comma_quotedChars,
      List.count_cons_of_ne (by decide), List.count_append, hv, hrest, fieldCommas,
      List.length_cons]
    omega

end

end Json

end Switchboard
