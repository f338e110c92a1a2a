import Mathlib.Algebra.Group.Int.Even
import Switchboard.Proofs.Decimal.Binary64
import Switchboard.Proofs.Json.Reading
import Switchboard.Proofs.Service.EitherWay

/-!
# Arithmetic on integers

JSON text holds integers of sixty-four bits, with a sign or without.  The stock computes
with those that have a sign: `isEven` tells the even ones among them, and `plus` adds them
as long as their sum is one of them.  It adds any other two in binary64, and returns a
fraction then: an integer that it returns is always the sum.

## Main statements

* `Native.isEven_eq_ok_iff`: which value `isEven` has.
* `Native.plus_int`: which value `plus` has for integers that JSON text can hold.
* `Native.plus_eq_ok_int_iff`: when `plus` returns an integer, and which.
* `Backend.runNative_plus_eq_ok_iff`: which value a call of `plus` has.
* `Backend.stock_exact_on_integers`: what calls of both return.
* `Backend.stock_on_wide_integers`: what becomes of integers that need the range without a
  sign.
-/

namespace Switchboard

/-! ## Integers of sixty-four bits -/

theorem Json.FitsNumeral.natAbs_le {n : Int} (h : FitsNumeral n) : n.natAbs ≤ 2 ^ 64 := by
  obtain ⟨hmin, hmax⟩ := h
  simp only [Decimal.int64Min, Decimal.word64Max] at hmin hmax
  omega

/-- The integer of sixty-four bits that a value is. -/
@[simp] theorem Json.filter_int?_eq_some_iff {v : Json} {n : Int} :
    v.int?.filter Decimal.isInt64 = some n ↔ v = .int n ∧ Decimal.isInt64 n = true := by
  have hint : v.int? = some n ↔ v = .int n := by
    unfold int? int
    split
    · simp
    · rename_i hother
      exact iff_of_false nofun (hother n)
  rw [Option.filter_eq_some_iff, hint]

/-! ## The functions -/

namespace Native

/-- `isEven` has a value for integers of sixty-four bits with their sign, and for nothing else. -/
@[simp] theorem isEven_eq_ok_iff {v w : Json} :
    isEven v = .ok w ↔
      ∃ n, v = .int n ∧ Decimal.isInt64 n = true ∧ w = .bool (decide (Even n)) := by
  have hparity : ∀ n : Int, (n % 2 == 0) = decide (Even n) := by
    intro n
    rw [Bool.eq_iff_iff, beq_iff_eq, decide_eq_true_iff, Int.even_iff]
  simp only [← and_assoc, ← Json.filter_int?_eq_some_iff, isEven]
  cases v.int?.filter Decimal.isInt64 with
  | none => simp
  | some n => simp [hparity, eq_comm (a := w)]

theorem isEven_of_not_isInt64 {n : Int} (h : Decimal.isInt64 n = false) :
    isEven (.int n) =
      .error ⟨"isEven: " ++ (Json.int n).compact ++ " is not an integer"⟩ := by
  have hnone : (Json.int n).int?.filter Decimal.isInt64 = none := by
    simp [Json.int?, Json.int, h]
  simp only [isEven, hnone]

theorem exactSum?_eq_some_iff {v w : Json} {c : Int} :
    exactSum? v w = some c ↔ ∃ a b, (v = .int a ∧ Decimal.isInt64 a = true) ∧
      (w = .int b ∧ Decimal.isInt64 b = true) ∧ Decimal.isInt64 (a + b) = true ∧ c = a + b := by
  simp only [← Json.filter_int?_eq_some_iff, exactSum?]
  cases v.int?.filter Decimal.isInt64 with
  | none => simp
  | some a =>
    cases w.int?.filter Decimal.isInt64 with
    | none => simp
    | some b =>
      rw [Option.filter_eq_some_iff, Option.some.injEq]
      constructor
      · rintro ⟨rfl, hbits⟩
        exact ⟨a, b, rfl, rfl, hbits, rfl⟩
      · rintro ⟨_, _, ⟨⟩, ⟨⟩, hbits, rfl⟩
        exact ⟨rfl, hbits⟩

/-- An integer that `plus` returns is the exact sum. -/
@[simp] theorem plus_eq_ok_int_iff {v w : Json} {c : Int} :
    plus v w = .ok (.int c) ↔ exactSum? v w = some c := by
  unfold plus
  cases exactSum? v w with
  | some sum => simp [Json.int]
  | none =>
    dsimp only
    split <;> simp [Json.int]

/-- Of integers that JSON text can hold, those without an exact sum have one in binary64. -/
theorem plus_int {a b : Int} (ha : Json.FitsNumeral a) (hb : Json.FitsNumeral b) :
    plus (.int a) (.int b) = .ok (.num ((exactSum? (.int a) (.int b)).elim
      (.float (Float.ofInt a + Float.ofInt b)) .int)) := by
  have hfinite := Binary64.isFinite_ofInt_add_ofInt ha.natAbs_le hb.natAbs_le
  have hfloats : asFloat (.int a) + asFloat (.int b) = Float.ofInt a + Float.ofInt b := rfl
  unfold plus
  cases exactSum? (.int a) (.int b) with
  | some sum => rfl
  | none => simp only [hfloats, hfinite, if_true, Option.elim_none]

/-- Integers of sixty-four bits with their sign have an exact sum if it is one of them. -/
theorem plus_int_of_isInt64 {a b : Int} (ha : Decimal.isInt64 a = true)
    (hb : Decimal.isInt64 b = true) :
    plus (.int a) (.int b) = .ok (if Decimal.isInt64 (a + b) = true then .int (a + b)
      else .num (.float (Float.ofInt a + Float.ofInt b))) := by
  rw [plus_int (Json.fitsNumeral_of_isInt64 ha) (Json.fitsNumeral_of_isInt64 hb)]
  split
  · rename_i hsum
    rw [exactSum?_eq_some_iff.2 ⟨a, b, ⟨rfl, ha⟩, ⟨rfl, hb⟩, hsum, rfl⟩]
    rfl
  · rename_i hsum
    have hnone : exactSum? (.int a) (.int b) = none := by
      rw [Option.eq_none_iff_forall_ne_some]
      intro c hc
      obtain ⟨_, _, ⟨⟨⟩, -⟩, ⟨⟨⟩, -⟩, hbits, -⟩ := exactSum?_eq_some_iff.1 hc
      exact hsum hbits
    rw [hnone]
    rfl

end Native

/-! ## Calls -/

/-- Where no value is `null`, the values of keys are what they mean. -/
theorem Binding.values_eq_iff {context : Json.Fields} {fragments : Option Fragments}
    {keys : List String} {vs : List Json} (h : Json.null ∉ vs) :
    values context fragments keys = vs ↔
      keys.map (fun key => Token.resolve key context fragments) = vs := by
  induction keys generalizing vs with
  | nil => rfl
  | cons key rest ih =>
    simp only [values, List.map_cons]
    split
    · rename_i hnull
      rw [Json.isNull_iff.1 hnull]
      exact iff_of_false (fun heq => h (heq ▸ List.mem_cons_self))
        (fun heq => h (heq ▸ List.mem_cons_self))
    · cases vs with
      | nil => simp
      | cons v vs =>
        rw [List.cons.injEq, List.cons.injEq, ih (mt (List.mem_cons_of_mem v) h)]

namespace Backend

open Native

variable {ν : Type} {memory : ν}

/-- `plus` is registered for eager calls only. -/
theorem convention_of_name_eq_plus {overload : Overload ν} (hmem : overload ∈ stock.rows)
    (hname : overload.name = "plus") : overload.convention = .eager := by
  simp only [stock, List.mem_cons, List.not_mem_nil, or_false] at hmem
  rcases hmem with rfl | rfl | rfl | rfl | rfl | rfl
  all_goals first | rfl | simp [Overload.lazy] at hname

/-- `plus` runs on two numbers only. -/
theorem runNative_stock_plus_eq_ok_iff {b : Binding} (hmethod : b.call.method = "plus") {v : Json} :
    (runNative stock b memory).result = .ok v ↔
      ∃ m n, b.args = [.num m, .num n] ∧ plus (.num m) (.num n) = .ok v := by
  constructor
  · intro hran
    rcases runNative_cases stock b memory with ⟨row, overload, hpicks, hrun⟩ | ⟨-, hrun⟩
    · rw [hrun, settle_eq_ok_iff] at hran
      have hname : overload.name = "plus" := hpicks.name_eq.trans hmethod
      have heager := convention_of_name_eq_plus hpicks.mem hname
      rcases readsNumbers_of_suits hpicks.mem heager (Overload.suits_of_takes hpicks.takes) with
        ⟨hother, -⟩ | ⟨-, m, n, hargs, hplus⟩
      · exact absurd (hname.symm.trans hother) (by decide)
      · rw [hplus] at hran
        exact ⟨m, n, hargs, hran⟩
    · rw [hrun] at hran
      cases hran
  · rintro ⟨m, n, hargs, hplus⟩
    obtain ⟨⟨text, schema, method, keys⟩, resolution, args⟩ := b
    subst hmethod hargs
    have hfound : (stock : Table ν).lookUp "plus" [.num m, .num n] = .found 5 _ := rfl
    rw [runNative_of_found hfound, settle_eq_ok_iff]
    exact hplus

/-- A call of `plus` has a value only if it is bound eagerly and its keys mean two numbers. -/
theorem runNative_plus_eq_ok_iff {call : Call} {context : Json.Fields}
    {fragments : Option Fragments} {resolution : Resolution} {v : Json}
    (hmethod : call.method = "plus") :
    (runNative stock (Binding.bind call context fragments resolution) memory).result = .ok v ↔
      resolution = .eager ∧ ∃ m n,
        call.keys.map (fun key => Token.resolve key context fragments) = [.num m, .num n] ∧
        plus (.num m) (.num n) = .ok v := by
  have hbound : (Binding.bind call context fragments resolution).call.method = "plus" := by
    simp [hmethod]
  rw [runNative_stock_plus_eq_ok_iff hbound]
  cases resolution with
  | lazy =>
    refine iff_of_false ?_ nofun
    rintro ⟨m, n, hargs, -⟩
    cases hargs
  | eager =>
    have hvalues : ∀ m n : Json.Number, Json.null ∉ [Json.num m, Json.num n] := by simp
    simp only [Binding.bind, Binding.values_eq_iff (hvalues _ _), true_and]

/-- Integers of sixty-four bits with their sign are what the stock computes with.  Whichever way
its key is handed over, `isEven` tells whether such an integer is even, and it returns nothing
else for any integer.  `plus` adds two of them if their sum is one of them and otherwise in
binary64.  It has a value for any two integers that JSON text can hold, and any integer that
it returns is the sum of the two that its keys mean. -/
theorem stock_exact_on_integers (memory : ν) :
    (∀ (call : Call) (context : Json.Fields) (fragments : Option Fragments)
        (resolution : Resolution) (key : String) (n : Int),
      call.method = "isEven" → call.keys = [key] →
      Token.resolve key context (resolution.fragments fragments) = .int n →
      let result := (runNative stock (Binding.bind call context fragments resolution) memory).result
      (Decimal.isInt64 n = true → result = .ok (.bool (decide (Even n)))) ∧
        ∀ v, result = .ok v → v = .bool (decide (Even n))) ∧
    (∀ (call : Call) (context : Json.Fields) (fragments : Option Fragments) (k l : String)
        (a b : Int),
      call.method = "plus" → call.keys = [k, l] →
      Token.resolve k context fragments = .int a → Token.resolve l context fragments = .int b →
      let result := (runNative stock (Binding.bind call context fragments .eager) memory).result
      (Json.FitsNumeral a → Json.FitsNumeral b → ∃ n, result = .ok (.num n)) ∧
        (Decimal.isInt64 a = true → Decimal.isInt64 b = true →
          result = .ok (if Decimal.isInt64 (a + b) = true then .int (a + b)
            else .num (.float (Float.ofInt a + Float.ofInt b))))) ∧
    ∀ (call : Call) (context : Json.Fields) (fragments : Option Fragments)
        (resolution : Resolution) (c : Int),
      call.method = "plus" →
      (runNative stock (Binding.bind call context fragments resolution) memory).result =
        .ok (.int c) →
      ∃ a b, call.keys.map (fun key => Token.resolve key context fragments) = [.int a, .int b] ∧
        c = a + b := by
  refine ⟨?_, ?_, ?_⟩
  · intro call context fragments resolution key n hmethod hkeys hmeans result
    have hresult : ∀ v, result = .ok v ↔ isEven (.int n) = .ok v := fun v =>
      hmeans ▸ runNative_isEven_eq_ok_iff hmethod hkeys
    refine ⟨fun hbits => ?_, fun v hv => ?_⟩
    · exact (hresult _).2 (isEven_eq_ok_iff.2 ⟨n, rfl, hbits, rfl⟩)
    · obtain ⟨_, ⟨⟩, -, rfl⟩ := isEven_eq_ok_iff.1 ((hresult v).1 hv)
      rfl
  · intro call context fragments k l a b hmethod hkeys hk hl result
    have hmeans : call.keys.map (fun key => Token.resolve key context fragments) =
        [.int a, .int b] := by
      rw [hkeys, List.map_cons, List.map_cons, hk, hl, List.map_nil]
    have hresult : ∀ v, plus (.int a) (.int b) = .ok v → result = .ok v := fun v hplus =>
      (runNative_plus_eq_ok_iff hmethod).2 ⟨rfl, _, _, hmeans, hplus⟩
    refine ⟨fun ha hb => ?_, fun ha hb => hresult _ (plus_int_of_isInt64 ha hb)⟩
    exact ⟨_, hresult _ (plus_int ha hb)⟩
  · intro call context fragments resolution c hmethod hran
    obtain ⟨-, m, n, hmeans, hplus⟩ := (runNative_plus_eq_ok_iff hmethod).1 hran
    obtain ⟨a, b, ⟨hm, -⟩, ⟨hn, -⟩, -, hsum⟩ :=
      exactSum?_eq_some_iff.1 (plus_eq_ok_int_iff.1 hplus)
    exact ⟨a, b, by rw [hmeans, hm, hn], hsum⟩

/-- A context with integers at the ends of their ranges. -/
def extremes : Json.Fields :=
  [("least", .int Decimal.int64Min), ("most", .int Decimal.int64Max), ("one", .int 1),
    ("words", .int Decimal.word64Max)]

/-- The least integer is even, its sum with the greatest one is exact, and the greatest one
without a sign has a sum with one. -/
theorem stock_exact_on_extremes :
    Decimal.isInt64 Decimal.int64Min = true ∧ Decimal.isInt64 Decimal.int64Max = true ∧
      Json.FitsNumeral Decimal.word64Max ∧ Json.FitsNumeral 1 ∧
      (runNative stock (Binding.bind ⟨"isEven(least)", none, "isEven", ["least"]⟩ extremes none
        .lazy) ()).result = .ok (.bool true) ∧
      (runNative stock (Binding.bind ⟨"plus(most,least)", none, "plus", ["most", "least"]⟩ extremes
        none .eager) ()).result = .ok (.int (-1)) ∧
      (∃ n, (runNative stock (Binding.bind ⟨"plus(words,one)", none, "plus", ["words", "one"]⟩
        extremes none .eager) ()).result = .ok (.num n)) ∧
      ∃ a b, ["most", "least"].map (fun key => Token.resolve key extremes none) =
        [.int a, .int b] ∧ -1 = a + b := by
  have hleast : Decimal.isInt64 Decimal.int64Min = true := rfl
  have hmost : Decimal.isInt64 Decimal.int64Max = true := rfl
  have hwords : Json.FitsNumeral Decimal.word64Max := ⟨by decide, by decide⟩
  have hone : Json.FitsNumeral 1 := ⟨by decide, by decide⟩
  obtain ⟨hparity, hplus, hint⟩ := stock_exact_on_integers ()
  have hsum := (hplus ⟨"plus(most,least)", none, "plus", ["most", "least"]⟩ extremes none "most"
    "least" _ _ rfl rfl rfl rfl).2 hmost hleast
  have heven := (hparity ⟨"isEven(least)", none, "isEven", ["least"]⟩ extremes none .lazy "least"
    _ rfl rfl rfl).1 hleast
  exact ⟨hleast, hmost, hwords, hone, heven, hsum,
    (hplus _ extremes none "words" "one" _ _ rfl rfl rfl rfl).1 hwords hone,
    hint _ extremes none .eager (-1) rfl hsum⟩

/-- The sum of two integers is not exact where it needs the range without a sign. -/
theorem not_forall_plus_eq_add :
    ¬ ∀ (call : Call) (context : Json.Fields) (fragments : Option Fragments) (k l : String)
        (a b : Int),
      call.method = "plus" → call.keys = [k, l] →
      Token.resolve k context fragments = .int a → Token.resolve l context fragments = .int b →
      Json.FitsNumeral a → Json.FitsNumeral b → Json.FitsNumeral (a + b) →
      (runNative stock (Binding.bind call context fragments .eager) ()).result =
        .ok (.int (a + b)) := by
  intro h
  have hran := h ⟨"plus(most,one)", none, "plus", ["most", "one"]⟩ extremes none "most" "one" _ _
    rfl rfl rfl rfl ⟨by decide, by decide⟩ ⟨by decide, by decide⟩ ⟨by decide, by decide⟩
  obtain ⟨-, m, n, -, hplus⟩ := (runNative_plus_eq_ok_iff rfl).1 hran
  obtain ⟨a, b, -, -, hbits, hsum⟩ := exactSum?_eq_some_iff.1 (plus_eq_ok_int_iff.1 hplus)
  rw [← hsum] at hbits
  exact absurd hbits (by decide)

/-- Integers that have no place among those with a sign are none to the stock: `isEven` says
so, and `plus` adds two numbers in binary64 if they or their sum are such. -/
theorem stock_on_wide_integers (memory : ν) :
    (∀ (call : Call) (context : Json.Fields) (fragments : Option Fragments)
        (resolution : Resolution) (key : String) (n : Int),
      call.method = "isEven" → call.keys = [key] →
      Token.resolve key context (resolution.fragments fragments) = .int n →
      Decimal.isInt64 n = false →
      (runNative stock (Binding.bind call context fragments resolution) memory).result =
        .error (.target ("isEven: " ++ (Json.int n).compact ++ " is not an integer"))) ∧
    ∀ (call : Call) (context : Json.Fields) (fragments : Option Fragments) (k l : String)
        (a b : Int),
      call.method = "plus" → call.keys = [k, l] →
      Token.resolve k context fragments = .int a → Token.resolve l context fragments = .int b →
      Json.FitsNumeral a → Json.FitsNumeral b →
      (Decimal.isInt64 a && Decimal.isInt64 b && Decimal.isInt64 (a + b)) = false →
      (runNative stock (Binding.bind call context fragments .eager) memory).result =
        .ok (.num (.float (Float.ofInt a + Float.ofInt b))) := by
  refine ⟨fun call context fragments resolution key n hmethod hkeys hmeans hwide => ?_,
    fun call context fragments k l a b hmethod hkeys hk hl ha hb hwide => ?_⟩
  · have hletter : Text.isBlank 'i' = false := by decide
    exact runNative_isEven_of_error hmethod hkeys hmeans (isEven_of_not_isInt64 hwide)
      (by simp [Text.isAllBlank, hletter])
  · have hmeans : call.keys.map (fun key => Token.resolve key context fragments) =
        [.int a, .int b] := by
      rw [hkeys, List.map_cons, List.map_cons, hk, hl, List.map_nil]
    have hnone : exactSum? (.int a) (.int b) = none := by
      rw [Option.eq_none_iff_forall_ne_some]
      intro c hc
      obtain ⟨_, _, ⟨⟨⟩, hbitsa⟩, ⟨⟨⟩, hbitsb⟩, hbits, -⟩ := exactSum?_eq_some_iff.1 hc
      simp [hbitsa, hbitsb, hbits] at hwide
    refine (runNative_plus_eq_ok_iff hmethod).2 ⟨rfl, _, _, hmeans, ?_⟩
    exact (plus_int ha hb).trans (by rw [hnone]; rfl)

end Backend

end Switchboard
