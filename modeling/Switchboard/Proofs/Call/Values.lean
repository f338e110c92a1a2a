import Mathlib.Algebra.GroupWithZero.Nat
import Switchboard.Proofs.Call.Rendering
import Switchboard.Proofs.Checks
import Switchboard.Proofs.Json.Commas

/-!
# Calls that are written with their values

A call can be written with the values of its keys in place of the keys: truth
values and numbers bare, all else in quotes.  What is written so is a call of the
same method again, since nothing in the list can end it.  But the quotes hold
nothing together, and so each comma of a value starts another key.

## Main definitions

* `Binding.ReadAs`: the call that a call with its values is read as.
* `Binding.ReadsAgain`: it is read again, as that call.

## Main statements

* `Binding.count_comma_renderValue`: the commas of a value as an argument.
* `Call.read_renderValues`: what a call with its values is read as.
-/

namespace Switchboard

/-! ## Numbers -/

namespace Json

theorem isBlank_of_isNumeralChar {c : Char} (h : isNumeralChar c = true) :
    Text.isBlank c = false := by
  simp only [isNumeralChar, Bool.or_eq_true, beq_iff_eq, or_assoc] at h
  rcases h with hdigit | rfl | rfl | rfl | rfl | rfl
  · have hrange := Text.toNat_of_isDigit hdigit
    exact Text.isBlank_of_visible (by omega) (by omega)
  all_goals decide

theorem exists_mem_layout (layout : Decimal.Layout) (x : Float) : ∃ c, c ∈ layout.chars x := by
  have hpoint : ∀ d, '.' ∈ Decimal.pointChars d := by
    intro d
    unfold Decimal.pointChars
    split <;> simp
  have hexponent : ∀ signed d, 'e' ∈ Decimal.exponentChars signed d := by
    simp [Decimal.exponentChars]
  unfold Decimal.Layout.chars
  dsimp only
  split_ifs
  · exact ⟨_, List.mem_cons_self⟩
  · exact ⟨_, List.mem_cons_self⟩
  · exact ⟨_, List.mem_cons_self⟩
  · exact ⟨_, List.mem_cons_self⟩
  · exact ⟨_, hpoint _⟩
  · exact ⟨_, hexponent _ _⟩

theorem exists_mem_numberChars (n : Number) : ∃ c, c ∈ numberChars n := by
  cases n with
  | int n =>
    cases n with
    | ofNat m => exact List.exists_mem_of_ne_nil _ Nat.toDigits_ne_nil
    | negSucc m => exact ⟨'-', List.mem_cons_self⟩
  | float x => exact exists_mem_layout floatLayout x

end Json

/-! ## Values as arguments -/

namespace Binding

/-- As an argument a value has just its commas. -/
@[simp] theorem count_comma_renderValue (v : Json) :
    (renderValue "'" v).toList.count ',' = v.commas := by
  have hcompact : v.compact.toList.count ',' = v.commas := by
    simp [Json.compact]
  have hquoted : ∀ s : String, ("'" ++ s ++ "'").toList.count ',' = s.toList.count ',' := by
    simp
  cases v with
  | bool b => exact hcompact
  | num n => exact hcompact
  | str s => exact hquoted s
  | null => exact (hquoted _).trans hcompact
  | arr items => exact (hquoted _).trans hcompact
  | obj fields => exact (hquoted _).trans hcompact

/-- No argument is blank, not even an empty text. -/
theorem exists_not_blank_renderValue (v : Json) :
    ∃ c ∈ (renderValue "'" v).toList, Text.isBlank c = false := by
  have hquoted : ∀ s : String, ∃ c ∈ ("'" ++ s ++ "'").toList, Text.isBlank c = false :=
    fun s => ⟨'\'', by simp, by decide⟩
  cases v with
  | bool b =>
    cases b with
    | true => exact ⟨'t', by decide, by decide⟩
    | false => exact ⟨'f', by decide, by decide⟩
  | num n =>
    obtain ⟨c, hc⟩ := Json.exists_mem_numberChars n
    refine ⟨c, ?_, Json.isBlank_of_isNumeralChar (Json.isNumeralChar_of_mem_numberChars hc)⟩
    rwa [renderValue, Json.compact, String.toList_ofList, Json.chars]
  | str s => exact hquoted s
  | null => exact hquoted _
  | arr items => exact hquoted _
  | obj fields => exact hquoted _

/-- A list of values holds a key for each of them and another one for each of
their commas. -/
theorem length_splitKeys_renderValue (args : List Json) :
    (Call.splitKeys (",".intercalate (args.map (renderValue "'")))).length =
      args.length + (args.map Json.commas).sum := by
  cases args with
  | nil => rfl
  | cons v rest =>
    have hfilled : ∃ c ∈ (",".intercalate ((v :: rest).map (renderValue "'"))).toList,
        Text.isBlank c = false := by
      obtain ⟨c, hc, hblank⟩ := exists_not_blank_renderValue v
      refine ⟨c, ?_, hblank⟩
      rw [String.toList_intercalate]
      exact Text.mem_intercalate (by simp) hc
    have hcommas : (((v :: rest).map (renderValue "'")).map String.toList).map (List.count ',') =
        (v :: rest).map Json.commas := by
      rw [List.map_map, List.map_map]
      exact List.map_congr_left fun v _ => count_comma_renderValue v
    have hcount := Text.count_intercalate ','
      (((v :: rest).map (renderValue "'")).map String.toList)
    rw [hcommas, List.length_map, List.length_map, List.length_cons] at hcount
    rw [Call.splitKeys_of_filled hfilled, List.length_map, Text.length_pieces,
      String.toList_intercalate, List.length_cons]
    exact (congrArg (· + 1) hcount).trans (by omega)

/-- The call that a call with its values is read as: it has the method and no
schema, and another key for each comma of a value. -/
structure ReadAs (b : Binding) (again : Call) : Prop where
  schema_eq : again.schema = none
  method_eq : again.method = b.call.method
  length_keys : again.keys.length = b.call.keys.length + (b.args.map Json.commas).sum

/-- There are as many keys as before if no value has a comma. -/
theorem ReadAs.length_eq_iff {b : Binding} {again : Call} (h : b.ReadAs again) :
    again.keys.length = b.call.keys.length ↔ ∀ v ∈ b.args, v.commas = 0 := by
  rw [h.length_keys, Nat.add_eq_left, List.sum_eq_zero_iff_forall_eq_nat, List.forall_mem_map]

theorem exists_readAs {b : Binding} (hmethod : Text.SpellsName b.call.method)
    (hargs : b.args.length = b.call.keys.length) :
    ∃ again, Call.read .remote (b.renderValues "'") = .ok again ∧ b.ReadAs again := by
  have hwritten : Call.Written (b.renderValues "'") none b.call.method
      (",".intercalate (b.args.map (renderValue "'"))) := ⟨nofun, hmethod, rfl⟩
  refine ⟨_, Call.read_of_written hwritten fun _ => rfl, rfl, rfl, ?_⟩
  rw [length_splitKeys_renderValue, hargs]

/-- A call with its values is read again, and with as many keys exactly if none of
its values has a comma. -/
def ReadsAgain (b : Binding) : Prop :=
  ∃ again, Call.read .remote (b.renderValues "'") = .ok again ∧ b.ReadAs again ∧
    (again.keys.length = b.call.keys.length ↔ ∀ v ∈ b.args, v.commas = 0)

end Binding

namespace Call

/-- A call that was read and has the values of its keys is always read again from
what is written with them, as a call of the same method.  It has as many keys as
before exactly if no value has a comma: no text and no key of an object holds one,
and no array or object has more than one member. -/
theorem read_renderValues :
    (∀ (site : Site) (text : String) (call : Call) (context : Json.Fields)
        (fragments : Option Fragments), read site text = .ok call →
      (Binding.bind call context fragments .eager).ReadsAgain) ∧
    ∀ (text : String) (context : Json.Fields) (fragments : Option Fragments) (b : Binding),
      Binding.readSql text context fragments = .ok b → b.ReadsAgain := by
  have hbind : ∀ (site : Site) (text : String) (call : Call) (context : Json.Fields)
      (fragments : Option Fragments), read site text = .ok call →
      (Binding.bind call context fragments .eager).ReadsAgain := by
    intro site text call context fragments hread
    obtain ⟨again, hagain, hreadAs⟩ :=
      @Binding.exists_readAs (Binding.bind call context fragments .eager) (tidy_of_read hread).1
        (Binding.length_values context fragments call.keys)
    exact ⟨again, hagain, hreadAs, hreadAs.length_eq_iff⟩
  refine ⟨hbind, ?_⟩
  intro text context fragments b hsql
  obtain ⟨call, hread, rfl⟩ := map_eq_ok_iff.1 hsql
  exact hbind .sql text call context fragments hread

/-- A text with a quote and a parenthesis, an object of two fields, one of them
with a comma, an empty text and nothing. -/
def lemonAndPrice : Json.Fields :=
  [("name", .str "Lemon')"), ("none", .str ""),
    ("price", .obj [("unit", .str "kg, net"), ("value", .int 2)])]

/-- The object of two fields with a comma in one of them counts as three keys, and
what the other values hold ends nothing. -/
theorem read_renderValues_lemonAndPrice :
    (∃ b, Binding.readSql "db.concat(name,none,price,x)" lemonAndPrice none = .ok b ∧
      b.renderValues "'" =
        "concat('Lemon')','','\x7b\"unit\":\"kg, net\",\"value\":2\x7d','null')" ∧
      b.ReadsAgain) ∧
    (Binding.bind ⟨"f(name)", none, "f", ["name"]⟩ lemonAndPrice none .eager).ReadsAgain :=
  ⟨⟨_, rfl, by decide, read_renderValues.2 "db.concat(name,none,price,x)" lemonAndPrice none _ rfl⟩,
    read_renderValues.1 .remote "f(name)" _ lemonAndPrice none rfl⟩

/-- The quotes around a value hold nothing together: a comma in a text makes two
keys of one. -/
theorem not_forall_length_keys_renderValues :
    ¬ ∀ (site : Site) (text : String) (call : Call) (context : Json.Fields)
        (fragments : Option Fragments), read site text = .ok call →
      ∃ again,
        read .remote ((Binding.bind call context fragments .eager).renderValues "'") = .ok again ∧
        again.method = call.method ∧ again.keys.length = call.keys.length := by
  intro h
  obtain ⟨again, hagain, -, hlength⟩ := h .remote "f(name)" ⟨"f(name)", none, "f", ["name"]⟩
    [("name", .str "a,b")] none rfl
  have hkeys : read .remote ((Binding.bind ⟨"f(name)", none, "f", ["name"]⟩
      [("name", .str "a,b")] none .eager).renderValues "'") =
      .ok ⟨"f('a,b')", none, "f", ["'a", "b'"]⟩ := rfl
  obtain rfl := Except.ok.inj (hkeys.symm.trans hagain)
  exact absurd hlength (by decide)

end Call

end Switchboard
