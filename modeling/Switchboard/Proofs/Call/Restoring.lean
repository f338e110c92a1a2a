import Switchboard.Proofs.Call.Meaning
import Switchboard.Proofs.Call.Values

/-!
# Values that a written call restores

A call that is written with its values can be read and bound again.  Truth values,
integers of sixty-four bits and texts without commas and single quotes come back from
that as they were: what is written for them is a literal or a text in quotes, whatever the
text looks like, and neither is looked up in a data context.

## Main definitions

* `Json.Plain`: such values.
* `Binding.Restores`: a call that is written with its values comes back with them.

## Main statements

* `Binding.resolve_renderValue`: a plain value as an argument means the value.
* `Binding.tidy_renderValue`: values without commas are keys of a list.
* `Call.restores_of_plain`: calls with plain values come back.
-/

namespace Switchboard

/-- A value that comes back from what is written for it as an argument. -/
inductive Json.Plain : Json → Prop
  | bool (b : Bool) : Plain (.bool b)
  | int {n : Int} (hlow : Decimal.int64Min ≤ n) (hhigh : n ≤ Decimal.int64Max) : Plain (.int n)
  | str {s : String} (hcomma : ',' ∉ s.toList) (hquote : '\'' ∉ s.toList) : Plain (.str s)

theorem Json.Plain.commas_eq_zero {v : Json} (h : v.Plain) : v.commas = 0 := by
  cases h with
  | bool b => rfl
  | int => rfl
  | str hcomma => exact List.count_eq_zero.2 hcomma

/-! ## Literals as tokens -/

namespace Token

variable {token : String} {context : Json.Fields}

/-- A name starts with a letter or an underscore, behind an `@` if there is one. -/
theorem Refers.head_eq (h : Refers token) {c : Char} (hhead : token.toList.head? = some c) :
    Text.StartsName c ∨ c = '@' := by
  obtain ⟨name, ⟨head, tail, hname, hstarts, -⟩, rfl | rfl⟩ := h
  · rw [hname, List.head?_cons, Option.some.injEq] at hhead
    exact Or.inl (hhead ▸ hstarts)
  · rw [String.toList_append] at hhead
    exact Or.inr (Option.some.inj hhead).symm

/-- An integer is no name: digits and signs come before all letters. -/
theorem not_refers_of_spellsInteger {n : Int} (h : Decimal.SpellsInteger token.toList n) :
    ¬ Refers token := by
  intro hrefers
  obtain ⟨c, rest, hchars⟩ := List.exists_cons_of_ne_nil h.ne_nil
  have hhead : token.toList.head? = some c := by rw [hchars, List.head?_cons]
  have hbelow : c.toNat < 64 := by
    rcases h.head_eq hhead with hdigit | rfl | rfl
    · have hrange := Text.toNat_of_isDigit hdigit
      omega
    · decide
    · decide
  rcases hrefers.head_eq hhead with hstarts | rfl
  · have := hstarts.toNat_cases
    omega
  · exact absurd hbelow (by decide)

/-- An integer of sixty-four bits is spelled by its digits. -/
theorem spells_intChars {n : Int} (hlow : Decimal.int64Min ≤ n) (hhigh : n ≤ Decimal.int64Max) :
    Spells (String.ofList (Decimal.intChars n)) (.int n) := by
  have hspells : Decimal.SpellsInt64 (String.ofList (Decimal.intChars n)).toList n := by
    rw [String.toList_ofList]
    exact ⟨Decimal.spellsInteger_intChars n, hlow, hhigh⟩
  have hnumber := number?_eq_some_iff.2 (Or.inl ⟨n, hspells, rfl⟩)
  exact .integer (not_refers_of_spellsInteger hspells.1)
    (not_encloses_of_number? hnumber (Or.inr rfl)) hspells

/-- Without fragments a literal is what it spells, whatever stands in the context. -/
theorem resolve_of_spells {v : Json} (h : Spells token v) : resolve token context none = v :=
  resolve_eq_iff_means.2 (.literal (fun _ ⟨_, hnone, _⟩ => nomatch hnone) h)

end Token

namespace Binding

/-! ## One value -/

/-- A plain value as an argument means the value. -/
theorem resolve_renderValue {v : Json} (h : v.Plain) (context : Json.Fields) :
    Token.resolve (renderValue "'" v) context none = v := by
  cases h with
  | bool b =>
    refine Token.resolve_of_spells ?_
    cases b with
    | true => exact .yes (by decide)
    | false => exact .no (by decide)
  | int hlow hhigh => exact Token.resolve_of_spells (Token.spells_intChars hlow hhigh)
  | str hcomma hquote =>
    refine Token.resolve_of_quoted ⟨?_, hquote⟩
    simp [renderValue]

/-- No blanks stand around an argument: those of a text are in its quotes. -/
@[simp] theorem trim_renderValue (v : Json) :
    Text.trim (renderValue "'" v) = renderValue "'" v := by
  have hquoted : ∀ s : String, Text.trim ("'" ++ s ++ "'") = "'" ++ s ++ "'" := by
    intro s
    have hchars : ("'" ++ s ++ "'").toList = ('\'' :: s.toList) ++ ['\''] := by simp
    apply Text.trim_eq_self_of_ends <;> rw [hchars]
    · rintro c ⟨⟩
      decide
    · rw [List.getLast?_concat]
      rintro c ⟨⟩
      decide
  cases v with
  | bool b => cases b <;> decide
  | num n =>
    refine Text.trim_eq_self_of_forall fun c hc => ?_
    rw [renderValue, Json.compact, String.toList_ofList, Json.chars] at hc
    exact Json.isBlank_of_isNumeralChar (Json.isNumeralChar_of_mem_numberChars hc)
  | str s => exact hquoted s
  | null => exact hquoted _
  | arr items => exact hquoted _
  | obj fields => exact hquoted _

/-! ## All values -/

/-- Values without commas can be keys of a list, each as it is written. -/
theorem tidy_renderValue {args : List Json} (h : ∀ v ∈ args, v.commas = 0) :
    Call.Tidy (args.map (renderValue "'")) where
  trimmed := by
    rw [List.forall_mem_map]
    exact fun v _ => trim_renderValue v
  commaless := by
    rw [List.forall_mem_map]
    intro v hmem
    simp [← List.count_eq_zero, h v hmem]
  not_empty_alone := by
    intro halone
    obtain ⟨v, -, hempty⟩ := List.map_eq_singleton_iff.1 halone
    obtain ⟨c, hc, -⟩ := exists_not_blank_renderValue v
    rw [hempty] at hc
    exact absurd hc List.not_mem_nil

/-- Plain values as keys have just these values, since none of them is `null`. -/
theorem values_map_renderValue {args : List Json} (h : ∀ v ∈ args, v.Plain)
    (context : Json.Fields) : values context none (args.map (renderValue "'")) = args := by
  induction args with
  | nil => rfl
  | cons v rest ih =>
    rw [List.forall_mem_cons] at h
    have hsome : v.isNull = false := by cases h.1 <;> rfl
    rw [List.map_cons, values, resolve_renderValue h.1, ih h.2, hsome]
    rfl

/-! ## Calls -/

/-- A call that is written with its values is read again as a call of the same method, and
this has the same values of the same kinds in every context. -/
def Restores (b : Binding) : Prop :=
  ∃ again, Call.read .remote (b.renderValues "'") = .ok again ∧ again.method = b.call.method ∧
    ∀ context, (bind again context none .eager).args = b.args ∧
      (bind again context none .eager).kinds = b.kinds

end Binding

namespace Call

/-- A call whose values are truth values, integers of sixty-four bits and texts without
commas and single quotes comes back from what is written with them: read again and bound
in any context it has the same method and the same values. -/
theorem restores_of_plain (site : Site) (text : String) (call : Call) (context : Json.Fields)
    (fragments : Option Fragments) (hread : read site text = .ok call)
    (hargs : ∀ v ∈ (Binding.bind call context fragments .eager).args, v.Plain) :
    (Binding.bind call context fragments .eager).Restores := by
  obtain ⟨hmethod, -⟩ := tidy_of_read hread
  have htidy := Binding.tidy_renderValue fun v hmem => (hargs v hmem).commas_eq_zero
  refine ⟨_, read_callText .remote hmethod htidy, rfl, fun context' => ?_⟩
  have hvalues := Binding.values_map_renderValue hargs context'
  exact ⟨hvalues, congrArg (List.map Kind.of) hvalues⟩

/-- Values that are hard to tell apart when written: an empty text, a key in backquotes, a
piece of a call, and the least integer. -/
def lookalikes : Json.Fields :=
  [("none", .str ""), ("key", .str " \x60k\x60)"), ("call", .str "f(n"),
    ("least", .int Decimal.int64Min)]

theorem plain_lookalikes :
    ∀ v ∈ [.str "", .str " \x60k\x60)", .str "f(n", .str "true", .int Decimal.int64Min,
      .bool false], Json.Plain v := by
  simp only [List.forall_mem_cons]
  refine ⟨.str ?_ ?_, .str ?_ ?_, .str ?_ ?_, .str ?_ ?_, .int ?_ ?_, .bool false, nofun⟩ <;>
    decide

/-- Each of them comes back, and so does a fragment that looks like a truth value. -/
theorem restores_of_plain_lookalikes :
    (Binding.bind ⟨"db.f(none,key,call,frag,least,false)", some "db", "f",
        ["none", "key", "call", "frag", "least", "false"]⟩ lookalikes
        (some (Dict.ofList [("frag", "true")])) .eager).renderValues "'" =
      "f('',' \x60k\x60)','f(n','true',-9223372036854775808,false)" ∧
    (Binding.bind ⟨"db.f(none,key,call,frag,least,false)", some "db", "f",
        ["none", "key", "call", "frag", "least", "false"]⟩ lookalikes
        (some (Dict.ofList [("frag", "true")])) .eager).Restores :=
  ⟨by decide, restores_of_plain .sql "db.f(none,key,call,frag,least,false)" _ lookalikes _ rfl
    plain_lookalikes⟩

end Call

end Switchboard
