import Switchboard.Proofs.Call.Lookups
import Switchboard.Proofs.Decimal.Spelling
import Switchboard.Proofs.Text.Names

/-!
# What a token means

A token has one key, and its value depends on the data context and the fragments only
through what stands under that key.  A text in single quotes means itself whatever
stands there.  Of the rest a registered fragment comes first, then what the token
spells, and the data context last.

## Main definitions

* `Token.LooksUp`: the key of a token.
* `Token.Spells`: the truth value or number that a token spells.
* `Token.Means`: the value of a token, one rule for each way to come by it.

## Main statements

* `Token.literal?_eq_some_iff`: which tokens spell a value.
* `Token.resolve_eq_iff_means`: the rules give each token just one value.
* `Token.exists_key_resolve`: they read nothing but one key.
-/

namespace Switchboard.Token

/-! ## The rules -/

/-- A token is a text between two quotes, with none in between. -/
def Encloses (quote : Char) (token inner : String) : Prop :=
  token.toList = quote :: (inner.toList ++ [quote]) ∧ quote ∉ inner.toList

instance (quote : Char) (token inner : String) : Decidable (Encloses quote token inner) :=
  inferInstanceAs (Decidable (_ ∧ _))

/-- The key of a token: what stands between its backquotes, or the whole token if it is
not in backquotes. -/
inductive LooksUp (token : String) : String → Prop
  | backquoted {inner : String} (h : Encloses '\x60' token inner) : LooksUp token inner
  | whole (h : ∀ inner, ¬ Encloses '\x60' token inner) : LooksUp token token

/-- A text stands under a key in the table of fragments, if there is a table. -/
def Registers (fragments : Option Fragments) (key text : String) : Prop :=
  ∃ table, fragments = some table ∧ table.get? key = some text

/-- A token is a name, with or without an `@` in front. -/
def Refers (token : String) : Prop :=
  ∃ name, Text.SpellsName name ∧ (token = name ∨ token = "@" ++ name)

/-- What a token spells: the words `true` and `false` truth values, and what is neither
a name nor in backquotes an integer of sixty-four bits or else a finite fraction. -/
inductive Spells (token : String) : Json → Prop
  | yes (h : token = "true") : Spells token (.bool true)
  | no (h : token = "false") : Spells token (.bool false)
  | integer {n : Int} (hname : ¬ Refers token) (hbare : ∀ inner, ¬ Encloses '\x60' token inner)
      (h : Decimal.SpellsInt64 token.toList n) : Spells token (.int n)
  | fraction {x : Float} (hname : ¬ Refers token)
      (hbare : ∀ inner, ¬ Encloses '\x60' token inner)
      (hinteger : ∀ n, ¬ Decimal.SpellsInt64 token.toList n)
      (h : Decimal.SpellsFinite token.toList x) : Spells token (.num (.float x))

/-- The value of a token. -/
inductive Means (token : String) (context : Json.Fields) (fragments : Option Fragments) :
    Json → Prop
  /-- A text in single quotes is the text. -/
  | quoted {text : String} (h : Encloses '\'' token text) :
      Means token context fragments (.str text)
  /-- A registered key is what is registered, or itself if that is empty. -/
  | registered {key text : String} (hquoted : ∀ inner, ¬ Encloses '\'' token inner)
      (hkey : LooksUp token key) (h : Registers fragments key text) :
      Means token context fragments (.str (if text = "" then key else text))
  /-- A literal that is not registered is what it spells. -/
  | literal {v : Json} (hnone : ∀ text, ¬ Registers fragments token text) (h : Spells token v) :
      Means token context fragments v
  /-- All else is what stands in the data context, or `null`. -/
  | field {key : String} (hquoted : ∀ inner, ¬ Encloses '\'' token inner)
      (hkey : LooksUp token key) (hnone : ∀ text, ¬ Registers fragments key text)
      (hspells : ∀ v, ¬ Spells token v) :
      Means token context fragments ((context.get? key).getD .null)

variable {token : String} {context : Json.Fields} {fragments : Option Fragments}

/-! ## Quotes and keys -/

theorem enclosed?_map_eq_some_iff {quote : Char} {inner : String} :
    (enclosed? quote token.toList).map String.ofList = some inner ↔ Encloses quote token inner := by
  rw [Option.map_eq_some_iff]
  constructor
  · rintro ⟨cs, hcs, rfl⟩
    simpa [Encloses] using enclosed?_eq_some_iff.1 hcs
  · intro h
    exact ⟨inner.toList, enclosed?_eq_some_iff.2 h, String.ofList_toList⟩

@[simp] theorem quoted?_eq_some_iff {text : String} :
    quoted? token = some text ↔ Encloses '\'' token text :=
  enclosed?_map_eq_some_iff

@[simp] theorem quoted?_eq_none_iff :
    quoted? token = none ↔ ∀ inner, ¬ Encloses '\'' token inner := by
  simp only [Option.eq_none_iff_forall_ne_some, ne_eq, quoted?_eq_some_iff]

theorem key_eq_getD (token : String) :
    key token = ((enclosed? '\x60' token.toList).map String.ofList).getD token := by
  unfold key
  cases enclosed? '\x60' token.toList <;> rfl

/-- A token looks up one key and no other. -/
@[simp] theorem looksUp_iff {other : String} : LooksUp token other ↔ other = key token := by
  rw [key_eq_getD]
  cases henclosed : (enclosed? '\x60' token.toList).map String.ofList with
  | some inner =>
    have hinner := enclosed?_map_eq_some_iff.1 henclosed
    constructor
    · rintro (h | h)
      · exact Option.some.inj ((enclosed?_map_eq_some_iff.2 h).symm.trans henclosed)
      · exact absurd hinner (h inner)
    · rintro rfl
      exact .backquoted hinner
  | none =>
    have hbare : ∀ inner, ¬ Encloses '\x60' token inner := fun inner h =>
      nomatch henclosed.symm.trans (enclosed?_map_eq_some_iff.2 h)
    constructor
    · rintro (h | -)
      · exact absurd h (hbare _)
      · rfl
    · rintro rfl
      exact .whole hbare

/-! ## Fragments -/

theorem fragment?_eq_some_iff {key v : String} :
    fragments.bind (·.fragment? key) = some v ↔
      ∃ text, Registers fragments key text ∧ (if text = "" then key else text) = v := by
  simp only [Option.bind_eq_some_iff, Fragments.fragment?, Option.map_eq_some_iff, Registers,
    String.isEmpty_iff]
  constructor
  · rintro ⟨table, htable, text, hget, rfl⟩
    exact ⟨text, ⟨table, htable, hget⟩, rfl⟩
  · rintro ⟨text, ⟨table, htable, hget⟩, rfl⟩
    exact ⟨table, htable, text, hget, rfl⟩

@[simp] theorem fragment?_eq_none_iff {key : String} :
    fragments.bind (·.fragment? key) = none ↔ ∀ text, ¬ Registers fragments key text := by
  rw [Option.eq_none_iff_forall_ne_some]
  constructor
  · exact fun h text hregisters => h _ (fragment?_eq_some_iff.2 ⟨text, hregisters, rfl⟩)
  · intro h v hv
    obtain ⟨text, hregisters, -⟩ := fragment?_eq_some_iff.1 hv
    exact h text hregisters

/-! ## Literals -/

@[simp] theorem isReference_iff : isReference token = true ↔ Refers token := by
  have hname : ∀ name : String, Text.isNameChars name.toList = true ↔ Text.SpellsName name :=
    fun name => Text.isName_iff
  unfold isReference
  split
  · rename_i rest hrest
    have hat : ¬ Text.SpellsName token := fun h =>
      h.not_mem (by decide : ¬ Text.ContinuesName '@') (hrest ▸ List.mem_cons_self)
    constructor
    · intro h
      refine ⟨String.ofList rest, (hname _).1 (by simpa using h), Or.inr ?_⟩
      exact String.toList_injective (by simp [hrest])
    · rintro ⟨name, hspells, rfl | rfl⟩
      · exact absurd hspells hat
      · obtain rfl : name.toList = rest := by simpa using hrest
        exact (hname name).2 hspells
  · rename_i hno
    rw [hname]
    constructor
    · exact fun h => ⟨token, h, Or.inl rfl⟩
    · rintro ⟨name, hspells, rfl | rfl⟩
      · exact hspells
      · exact absurd (by simp) (hno name.toList)

theorem number?_eq_some_iff {cs : List Char} {v : Json} :
    number? cs = some v ↔ (∃ n, Decimal.SpellsInt64 cs n ∧ .int n = v) ∨
      (∀ n, ¬ Decimal.SpellsInt64 cs n) ∧ ∃ x, Decimal.SpellsFinite cs x ∧ .num (.float x) = v := by
  simp only [← Decimal.int64?_eq_some_iff, ← Decimal.finite?_eq_some_iff]
  unfold number?
  cases hinteger : Decimal.int64? cs with
  | some n => simp [Json.int]
  | none => simp

theorem Encloses.head_eq {quote : Char} {inner : String} (h : Encloses quote token inner) :
    token.toList.head? = some quote := by
  rw [h.1, List.head?_cons]

/-- A number is not in quotes of either kind: it starts with a digit, a point or a sign. -/
theorem not_encloses_of_number? {v : Json} (h : number? token.toList = some v) {quote : Char}
    (hquote : quote = '\'' ∨ quote = '\x60') (inner : String) : ¬ Encloses quote token inner := by
  intro hencloses
  have hfirst : (quote.isDigit = true ∨ quote = '.') ∨ quote = '+' ∨ quote = '-' := by
    rcases number?_eq_some_iff.1 h with ⟨n, hn, -⟩ | ⟨-, x, ⟨l, hl, -⟩, -⟩
    · exact (hn.1.head_eq hencloses.head_eq).imp_left Or.inl
    · exact hl.head_eq hencloses.head_eq
  rcases hquote with rfl | rfl <;> exact absurd hfirst (by decide)

/-- The words `true` and `false` are names. -/
theorem refers_word {b : Bool} (hword : token = toString b) : Refers token :=
  isReference_iff.1 (by subst hword; cases b <;> rfl)

@[simp] theorem spells_word_iff {b : Bool} (hword : token = toString b) {v : Json} :
    Spells token v ↔ .bool b = v := by
  constructor
  · intro h
    cases h with
    | yes h =>
      cases b with
      | true => rfl
      | false => exact absurd (hword.symm.trans h) (by decide)
    | no h =>
      cases b with
      | true => exact absurd (hword.symm.trans h) (by decide)
      | false => rfl
    | integer hname | fraction hname => exact absurd (refers_word hword) hname
  · rintro rfl
    cases b with
    | true => exact .yes hword
    | false => exact .no hword

/-- A token spells a value exactly if one is read from it. -/
@[simp] theorem literal?_eq_some_iff {v : Json} : literal? token = some v ↔ Spells token v := by
  unfold literal?
  split
  · rename_i hword
    rw [spells_word_iff (b := true) hword, Option.some.injEq]
  split
  · rename_i hword
    rw [spells_word_iff (b := false) hword, Option.some.injEq]
  rename_i hyes hno
  split
  · rename_i hreference
    have hname := isReference_iff.1 hreference
    refine iff_of_false nofun fun h => ?_
    cases h with
    | yes h => exact hyes h
    | no h => exact hno h
    | integer hother | fraction hother => exact hother hname
  · rename_i hreference
    have hname := mt isReference_iff.2 hreference
    constructor
    · intro h
      have hbare := not_encloses_of_number? h (Or.inr rfl)
      rcases number?_eq_some_iff.1 h with ⟨n, hn, rfl⟩ | ⟨hinteger, x, hx, rfl⟩
      · exact .integer hname hbare hn
      · exact .fraction hname hbare hinteger hx
    · intro h
      cases h with
      | yes h => exact absurd h hyes
      | no h => exact absurd h hno
      | integer _ _ hn => exact number?_eq_some_iff.2 (Or.inl ⟨_, hn, rfl⟩)
      | fraction _ _ hinteger hx => exact number?_eq_some_iff.2 (Or.inr ⟨hinteger, _, hx, rfl⟩)

@[simp] theorem literal?_eq_none_iff : literal? token = none ↔ ∀ v, ¬ Spells token v := by
  simp only [Option.eq_none_iff_forall_ne_some, ne_eq, literal?_eq_some_iff]

/-- What spells a value is not in quotes of either kind. -/
theorem Spells.not_encloses {v : Json} (h : Spells token v) {quote : Char}
    (hquote : quote = '\'' ∨ quote = '\x60') (inner : String) : ¬ Encloses quote token inner := by
  cases h with
  | yes h | no h =>
    intro hencloses
    have hhead := hencloses.head_eq
    subst h
    rcases hquote with rfl | rfl <;> cases hhead
  | integer _ _ hn =>
    exact not_encloses_of_number? (number?_eq_some_iff.2 (Or.inl ⟨_, hn, rfl⟩)) hquote inner
  | fraction _ _ hinteger hx =>
    exact not_encloses_of_number? (number?_eq_some_iff.2 (Or.inr ⟨hinteger, _, hx, rfl⟩)) hquote
      inner

/-- What spells a value is its own key. -/
theorem Spells.key_eq {v : Json} (h : Spells token v) : key token = token :=
  (looksUp_iff.1 (.whole (h.not_encloses (Or.inr rfl)))).symm

/-! ## Values -/

/-- A token in single quotes is the text between them. -/
theorem resolve_of_quoted {text : String} (h : Encloses '\'' token text) :
    resolve token context fragments = .str text := by
  simp only [resolve, quoted?_eq_some_iff.2 h]

/-- Any other token whose key is registered is what is registered. -/
theorem resolve_of_registered {text : String} (hquoted : ∀ inner, ¬ Encloses '\'' token inner)
    (h : Registers fragments (key token) text) :
    resolve token context fragments = .str (if text = "" then key token else text) := by
  have hfragment := fragment?_eq_some_iff.2 ⟨text, h, rfl⟩
  simp only [resolve, quoted?_eq_none_iff.2 hquoted, hfragment]

/-- Any other token is what it spells, or what stands in the data context. -/
theorem resolve_of_unregistered (hquoted : ∀ inner, ¬ Encloses '\'' token inner)
    (hnone : ∀ text, ¬ Registers fragments (key token) text) :
    resolve token context fragments =
      (literal? token).getD ((context.get? (key token)).getD .null) := by
  simp only [resolve, quoted?_eq_none_iff.2 hquoted, fragment?_eq_none_iff.2 hnone, lookUp]

/-- The rules give each token one value. -/
theorem resolve_eq_iff_means {v : Json} :
    resolve token context fragments = v ↔ Means token context fragments v := by
  constructor
  · rintro rfl
    by_cases hquoted : ∃ text, Encloses '\'' token text
    · obtain ⟨text, h⟩ := hquoted
      rw [resolve_of_quoted h]
      exact .quoted h
    rw [not_exists] at hquoted
    by_cases hregistered : ∃ text, Registers fragments (key token) text
    · obtain ⟨text, h⟩ := hregistered
      rw [resolve_of_registered hquoted h]
      exact .registered hquoted (looksUp_iff.2 rfl) h
    rw [not_exists] at hregistered
    rw [resolve_of_unregistered hquoted hregistered]
    cases hliteral : literal? token with
    | some v =>
      have hspells := literal?_eq_some_iff.1 hliteral
      exact .literal (hspells.key_eq ▸ hregistered) hspells
    | none => exact .field hquoted (looksUp_iff.2 rfl) hregistered (literal?_eq_none_iff.1 hliteral)
  · intro h
    cases h with
    | quoted h => exact resolve_of_quoted h
    | registered hquoted hkey h =>
      obtain rfl := looksUp_iff.1 hkey
      exact resolve_of_registered hquoted h
    | literal hnone h =>
      rw [resolve_of_unregistered (h.not_encloses (Or.inl rfl)) (h.key_eq.symm ▸ hnone),
        literal?_eq_some_iff.2 h, Option.getD_some]
    | field hquoted hkey hnone hspells =>
      obtain rfl := looksUp_iff.1 hkey
      rw [resolve_of_unregistered hquoted hnone, literal?_eq_none_iff.2 hspells, Option.getD_none]

/-- A token has one key, and means the same in any two data contexts and with any two
tables of fragments that have the same under that key, or nothing.  What it means is
given by the rules. -/
theorem exists_key_resolve (token : String) :
    ∃ key, LooksUp token key ∧ (∀ other, LooksUp token other → other = key) ∧
      (∀ (context context' : Json.Fields) (fragments fragments' : Option Fragments),
        context.get? key = context'.get? key →
        (∀ text, Registers fragments key text ↔ Registers fragments' key text) →
        resolve token context fragments = resolve token context' fragments') ∧
      ∀ (context : Json.Fields) (fragments : Option Fragments) (v : Json),
        resolve token context fragments = v ↔ Means token context fragments v := by
  refine ⟨key token, looksUp_iff.2 rfl, fun other => looksUp_iff.1, ?_,
    fun context fragments v => resolve_eq_iff_means⟩
  intro context context' fragments fragments' hcontext hfragments
  have hsame : fragments.bind (·.fragment? (key token)) =
      fragments'.bind (·.fragment? (key token)) :=
    Option.ext fun v => by simp only [fragment?_eq_some_iff, hfragments]
  simp only [resolve, lookUp, hsame, hcontext]

/-- In backquotes a key that is registered with nothing stands for itself, whatever else
is registered and whatever the data context holds elsewhere. -/
theorem exists_key_resolve_total :
    resolve "\x60total\x60" [("id", .int 1)] (some (Dict.ofList [("total", "")])) =
        resolve "\x60total\x60" [] (some (Dict.ofList [("id", "X"), ("total", "")])) ∧
      Means "\x60total\x60" [] (some (Dict.ofList [("id", "X"), ("total", "")]))
        (.str "total") := by
  obtain ⟨key, -, hunique, hcongr, hmeans⟩ := exists_key_resolve "\x60total\x60"
  obtain rfl : "total" = key := hunique "total" (.backquoted (by decide))
  refine ⟨hcongr [("id", .int 1)] [] _ _ rfl fun text => ?_, (hmeans _ _ _).1 rfl⟩
  have hget : (Dict.ofList [("total", "")]).get? "total" =
      (Dict.ofList [("id", "X"), ("total", "")]).get? "total" := by
    simp [Dict.ofList]
  simp only [Registers, Option.some.injEq, exists_eq_left', hget]

end Switchboard.Token
