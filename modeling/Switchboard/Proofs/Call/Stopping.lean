import Switchboard.Proofs.Call.Meaning
import Switchboard.Proofs.Service.Dispatch

/-!
# Where the values of a call stop

Bound eagerly, a call has a value for each of its keys up to the first that means
nothing, and `null` from there on.  So neither the keys behind that one nor what only they
would read can show in the arguments, and no backend can tell them.

## Main definitions

* `Binding.Stopped`: a key before the one at a place means nothing.
* `Binding.stop`: the place of the first key that means nothing.
* `Token.ReadsFragment`, `Token.ReadsField`: what the value of a token is read from.
* `Binding.SameToStop`: calls that differ only behind that place.

## Main statements

* `Binding.getElem?_values`: the value of a key, by whether one before means nothing.
* `Binding.values_of_sameToStop`: what stands behind the stop plays no part.
* `Backend.eager_arguments_stop`: the arguments of an eager call, and what they are for.
-/

namespace Switchboard

/-! ## The values up to the first `null` -/

@[simp] theorem Json.isNull_iff {v : Json} : v.isNull = true ↔ v = .null := by
  cases v <;> simp [isNull]

namespace Binding

/-- A key before the one at a place means nothing. -/
def Stopped (context : Json.Fields) (fragments : Option Fragments) (keys : List String)
    (i : Nat) : Prop :=
  ∃ earlier ∈ keys.take i, Token.resolve earlier context fragments = .null

/-- The place of the first key that means nothing, or the number of keys if each means
something. -/
def stop (context : Json.Fields) (fragments : Option Fragments) (keys : List String) : Nat :=
  keys.findIdx fun key => (Token.resolve key context fragments).isNull

variable {context context' : Json.Fields} {fragments fragments' : Option Fragments}
  {keys keys' : List String} {i : Nat}

@[simp] theorem not_stopped_zero : ¬ Stopped context fragments keys 0 :=
  fun ⟨_, hmem, _⟩ => absurd hmem List.not_mem_nil

@[simp] theorem stopped_succ {first : String} :
    Stopped context fragments (first :: keys) (i + 1) ↔
      Token.resolve first context fragments = .null ∨ Stopped context fragments keys i := by
  simp [Stopped]

/-- The value of a key is `null` if one before means nothing, and else what the key means. -/
theorem getElem?_values {key : String} (hkey : keys[i]? = some key) :
    (Stopped context fragments keys i → (values context fragments keys)[i]? = some .null) ∧
      (¬ Stopped context fragments keys i →
        (values context fragments keys)[i]? = some (Token.resolve key context fragments)) := by
  induction keys generalizing i with
  | nil => cases hkey
  | cons first rest ih =>
    simp only [values]
    cases i with
    | zero =>
      obtain rfl := Option.some.inj hkey
      refine ⟨fun h => absurd h not_stopped_zero, fun _ => ?_⟩
      split
      · rename_i hnull
        rw [Json.isNull_iff.1 hnull]
        rfl
      · rfl
    | succ i =>
      rw [stopped_succ]
      split
      · rename_i hnull
        refine ⟨fun _ => ?_, fun h => absurd (Or.inl (Json.isNull_iff.1 hnull)) h⟩
        rw [List.getElem?_cons_succ] at hkey ⊢
        rw [List.getElem?_map, hkey, Option.map_some]
      · rename_i hfirst
        rw [Json.isNull_iff] at hfirst
        exact ⟨fun h => (ih hkey).1 (h.resolve_left hfirst), fun h => (ih hkey).2 (h ∘ Or.inr)⟩

/-! ## The place of the first `null` -/

theorem stop_cons_of_null {first : String}
    (h : Token.resolve first context fragments = .null) :
    stop context fragments (first :: keys) = 0 := by
  simp [stop, List.findIdx_cons, Json.isNull_iff.2 h]

theorem stop_cons_of_ne {first : String}
    (h : Token.resolve first context fragments ≠ .null) :
    stop context fragments (first :: keys) = stop context fragments keys + 1 := by
  have hnull : (Token.resolve first context fragments).isNull = false :=
    Bool.eq_false_iff.2 (mt Json.isNull_iff.1 h)
  simp [stop, List.findIdx_cons, hnull]

/-- A key before the one at a place means nothing exactly if the first such key does. -/
theorem stopped_iff (hi : i ≤ keys.length) :
    Stopped context fragments keys i ↔ stop context fragments keys < i := by
  induction keys generalizing i with
  | nil =>
    obtain rfl := Nat.le_zero.1 hi
    exact iff_of_false not_stopped_zero (Nat.not_lt_zero _)
  | cons first rest ih =>
    cases i with
    | zero => exact iff_of_false not_stopped_zero (Nat.not_lt_zero _)
    | succ i =>
      rw [stopped_succ]
      by_cases hnull : Token.resolve first context fragments = .null
      · simp [stop_cons_of_null hnull, hnull]
      · have hrest := ih (Nat.le_of_succ_le_succ hi)
        rw [stop_cons_of_ne hnull, hrest]
        simp only [hnull, false_or]
        omega

theorem resolve_eq_null_of_stop {key : String}
    (hkey : keys[stop context fragments keys]? = some key) :
    Token.resolve key context fragments = .null := by
  obtain ⟨hi, rfl⟩ := List.getElem?_eq_some_iff.1 hkey
  exact Json.isNull_iff.1 (List.findIdx_getElem (w := hi))

theorem resolve_ne_null_of_lt_stop {key : String} (hkey : keys[i]? = some key)
    (hi : i < stop context fragments keys) : Token.resolve key context fragments ≠ .null := by
  obtain ⟨_, rfl⟩ := List.getElem?_eq_some_iff.1 hkey
  intro hnull
  have hno := List.not_of_lt_findIdx hi
  simp [hnull, Json.isNull] at hno

/-- Before the first key that means nothing each has the value that it means. -/
theorem getElem?_values_of_lt_stop {key : String} (hkey : keys[i]? = some key)
    (hi : i < stop context fragments keys) :
    (values context fragments keys)[i]? = some (Token.resolve key context fragments) := by
  obtain ⟨hlength, -⟩ := List.getElem?_eq_some_iff.1 hkey
  apply (getElem?_values hkey).2
  rw [stopped_iff (Nat.le_of_lt hlength)]
  omega

/-- From the first key that means nothing on all values are `null`. -/
theorem getElem?_values_of_stop_le {key : String} (hkey : keys[i]? = some key)
    (hi : stop context fragments keys ≤ i) :
    (values context fragments keys)[i]? = some .null := by
  obtain ⟨hlength, -⟩ := List.getElem?_eq_some_iff.1 hkey
  obtain ⟨hnull, hmeans⟩ := @getElem?_values context fragments _ _ _ hkey
  rw [stopped_iff (Nat.le_of_lt hlength)] at hnull hmeans
  by_cases hstop : i = stop context fragments keys
  · subst hstop
    rw [hmeans (Nat.lt_irrefl _), resolve_eq_null_of_stop hkey]
  · exact hnull (by omega)

/-- Each argument is tagged with its kind. -/
theorem getElem?_kinds {b : Binding} {v : Json} (h : b.args[i]? = some v) :
    b.kinds[i]? = some (Kind.of v) := by
  rw [kinds, List.getElem?_map, h, Option.map_some]

end Binding

/-! ## What stands behind the first `null` -/

namespace Token

/-- The value of a token is read from the fragment under a key: the token looks the key up
and is no text in single quotes. -/
def ReadsFragment (token key : String) : Prop :=
  (∀ inner, ¬ Encloses '\'' token inner) ∧ LooksUp token key

/-- The value of a token is read from the field under a key: no fragment stands under the
key, and the token spells nothing. -/
def ReadsField (fragments : Option Fragments) (token key : String) : Prop :=
  ReadsFragment token key ∧ (∀ text, ¬ Registers fragments key text) ∧ ∀ v, ¬ Spells token v

/-- A token means the same where the fragments and the fields are the same that it reads. -/
theorem resolve_eq_of_reads {token : String} {context context' : Json.Fields}
    {fragments fragments' : Option Fragments}
    (hfragments : ∀ key, ReadsFragment token key →
      ∀ text, Registers fragments' key text ↔ Registers fragments key text)
    (hfields : ∀ key, ReadsField fragments token key → context'.get? key = context.get? key) :
    resolve token context' fragments' = resolve token context fragments := by
  by_cases hquoted : ∃ text, Encloses '\'' token text
  · obtain ⟨text, htext⟩ := hquoted
    rw [resolve_of_quoted htext, resolve_of_quoted htext]
  rw [not_exists] at hquoted
  have hreads : ReadsFragment token (key token) := ⟨hquoted, looksUp_iff.2 rfl⟩
  have hsame := hfragments (key token) hreads
  by_cases hregistered : ∃ text, Registers fragments (key token) text
  · obtain ⟨text, htext⟩ := hregistered
    rw [resolve_of_registered hquoted htext,
      resolve_of_registered hquoted ((hsame text).2 htext)]
  rw [not_exists] at hregistered
  have hregistered' : ∀ text, ¬ Registers fragments' (key token) text :=
    fun text htext => hregistered text ((hsame text).1 htext)
  rw [resolve_of_unregistered hquoted hregistered,
    resolve_of_unregistered hquoted hregistered']
  cases hliteral : literal? token with
  | some v => rfl
  | none =>
    rw [hfields (key token) ⟨hreads, hregistered, literal?_eq_none_iff.1 hliteral⟩]

end Token

namespace Binding

variable {context context' : Json.Fields} {fragments fragments' : Option Fragments}
  {keys keys' : List String}

/-- Other keys, as many, in another context and with other fragments: up to the first key
that means nothing the keys are the same, and so is all that they read. -/
structure SameToStop (context context' : Json.Fields) (fragments fragments' : Option Fragments)
    (keys keys' : List String) : Prop where
  length_eq : keys'.length = keys.length
  keys_eq : keys'.take (stop context fragments keys + 1) =
    keys.take (stop context fragments keys + 1)
  fragments_eq : ∀ token ∈ keys.take (stop context fragments keys + 1), ∀ key,
    Token.ReadsFragment token key →
      ∀ text, Token.Registers fragments' key text ↔ Token.Registers fragments key text
  fields_eq : ∀ token ∈ keys.take (stop context fragments keys + 1), ∀ key,
    Token.ReadsField fragments token key → context'.get? key = context.get? key

theorem SameToStop.resolve_eq (h : SameToStop context context' fragments fragments' keys keys')
    {token : String} (hmem : token ∈ keys.take (stop context fragments keys + 1)) :
    Token.resolve token context' fragments' = Token.resolve token context fragments :=
  Token.resolve_eq_of_reads (h.fragments_eq token hmem) (h.fields_eq token hmem)

/-- Behind a key that means something the rest of the keys differ behind their stop only. -/
theorem SameToStop.tail {first first' : String}
    (h : SameToStop context context' fragments fragments' (first :: keys) (first' :: keys'))
    (hfirst : Token.resolve first context fragments ≠ .null) :
    SameToStop context context' fragments fragments' keys keys' := by
  obtain ⟨hlength, hkeys, hfragments, hfields⟩ := h
  rw [stop_cons_of_ne hfirst, List.take_succ_cons] at hkeys hfragments hfields
  refine ⟨Nat.succ.inj hlength, ?_, ?_, ?_⟩
  · exact (List.cons.inj hkeys).2
  · exact fun token hmem => hfragments token (List.mem_cons_of_mem first hmem)
  · exact fun token hmem => hfields token (List.mem_cons_of_mem first hmem)

/-- What stands behind the first key that means nothing plays no part in the values. -/
theorem values_of_sameToStop (h : SameToStop context context' fragments fragments' keys keys') :
    values context' fragments' keys' = values context fragments keys := by
  induction keys generalizing keys' with
  | nil =>
    obtain rfl := List.length_eq_zero_iff.1 h.length_eq
    rfl
  | cons first rest ih =>
    obtain ⟨first', rest', rfl⟩ := List.exists_cons_of_length_eq_add_one h.length_eq
    have hmem : first ∈ (first :: rest).take (stop context fragments (first :: rest) + 1) :=
      List.mem_cons_self
    have hresolve := h.resolve_eq hmem
    obtain rfl : first' = first := (List.cons.inj h.keys_eq).1
    simp only [values, hresolve]
    split
    · -- The first key stops the values already, and then only their number counts.
      have hlength : rest'.length = rest.length := Nat.succ.inj h.length_eq
      rw [List.map_const', List.map_const', hlength]
    · rename_i hnull
      rw [ih (h.tail (mt Json.isNull_iff.2 hnull))]

end Binding

/-! ## What the backends see -/

namespace Backend

/-- The native backend tells bound calls apart by their methods and arguments only, but for
the wording of its failures. -/
theorem runNative_of_args_eq {ν : Type} (natives : Native.Table ν) (memory : ν) {b b' : Binding}
    (hmethod : b'.call.method = b.call.method) (hargs : b'.args = b.args) :
    (runNative natives b' memory).effects = (runNative natives b memory).effects ∧
      (runNative natives b' memory).memory = (runNative natives b memory).memory ∧
      (runNative natives b' memory).result.toOption =
        (runNative natives b memory).result.toOption := by
  unfold runNative
  rw [hmethod, hargs]
  split
  · exact ⟨rfl, rfl, rfl⟩
  · exact ⟨rfl, rfl, rfl⟩
  · rename_i row overload _
    rcases overload.run b.args memory with ⟨fault | v, after⟩
    · by_cases h : Text.isAllBlank fault.message = true <;> simp [h, Except.toOption]
    · exact ⟨rfl, rfl, rfl⟩

/-- The host of scripts tells bound calls apart by their methods and arguments only. -/
theorem runScript_of_args_eq {σ : Type} (host : Script.Host σ) (entry : Entry) (s : σ)
    {b b' : Binding} (hmethod : b'.call.method = b.call.method) (hargs : b'.args = b.args) :
    runScript host entry b' s = runScript host entry b s := by
  simp only [runScript, Binding.kinds, hmethod, hargs]

/-- Bound eagerly, a call has one argument for each key: what the key means before the first
key that means nothing, and `null` from there on.  Other keys behind that one, and other
fields and fragments that only these read, are no difference to the arguments, and so
neither to the overload that is picked nor to what a script is handed. -/
theorem eager_arguments_stop :
    (∀ (call : Call) (context : Json.Fields) (fragments : Option Fragments),
      let p := Binding.stop context fragments call.keys
      let b := Binding.bind call context fragments .eager
      b.args.length = call.keys.length ∧
        ∀ (i : Nat) (key : String), call.keys[i]? = some key →
          (i < p → Token.resolve key context fragments ≠ .null ∧
            b.args[i]? = some (Token.resolve key context fragments) ∧
            b.kinds[i]? = some (Kind.of (Token.resolve key context fragments))) ∧
          (i = p → Token.resolve key context fragments = .null) ∧
          (p ≤ i → b.args[i]? = some .null ∧ b.kinds[i]? = some .any)) ∧
    ∀ (call call' : Call) (context context' : Json.Fields) (fragments fragments' : Option Fragments),
      call'.method = call.method →
      Binding.SameToStop context context' fragments fragments' call.keys call'.keys →
      let b := Binding.bind call context fragments .eager
      let b' := Binding.bind call' context' fragments' .eager
      b'.args = b.args ∧ b'.kinds = b.kinds ∧
        (∀ (ν : Type) (natives : Native.Table ν) (memory : ν),
          natives.lookUp call'.method b'.args = natives.lookUp call.method b.args ∧
          (runNative natives b' memory).effects = (runNative natives b memory).effects ∧
          (runNative natives b' memory).memory = (runNative natives b memory).memory ∧
          (runNative natives b' memory).result.toOption =
            (runNative natives b memory).result.toOption) ∧
        ∀ (ν σ : Type) (natives : Native.Table ν) (host : Script.Host σ) (entry : Entry)
          (resolution resolution' : Resolution) (memory : Memory ν σ), entry.execution = .script →
          run natives host entry call' context' resolution' fragments' memory =
            run natives host entry call context resolution fragments memory := by
  constructor
  · intro call context fragments p b
    refine ⟨Binding.length_values context fragments call.keys, fun i key hkey => ⟨?_, ?_, ?_⟩⟩
    · intro hlt
      have harg := Binding.getElem?_values_of_lt_stop hkey hlt
      exact ⟨Binding.resolve_ne_null_of_lt_stop hkey hlt, harg, Binding.getElem?_kinds harg⟩
    · rintro rfl
      exact Binding.resolve_eq_null_of_stop hkey
    · intro hle
      have harg : b.args[i]? = some .null := Binding.getElem?_values_of_stop_le hkey hle
      exact ⟨harg, Binding.getElem?_kinds harg⟩
  · intro call call' context context' fragments fragments' hmethod hsame b b'
    have hargs : b'.args = b.args := Binding.values_of_sameToStop hsame
    refine ⟨hargs, congrArg (List.map Kind.of) hargs, fun ν natives memory => ⟨?_, ?_⟩, ?_⟩
    · rw [hmethod, hargs]
    · exact runNative_of_args_eq natives memory hmethod hargs
    · intro ν σ natives host entry resolution resolution' memory hscript
      have hsame := runScript_of_args_eq host entry memory.scripts hmethod hargs
      simp only [run, hscript]
      rw [hsame]

/-- A call with a key that stands for nothing between two others. -/
def aboutMissing : Call :=
  ⟨"f(a,missing,c)", none, "f", ["a", "missing", "c"]⟩

/-- The same call with another last key. -/
def aboutMissing' : Call :=
  ⟨"f(a,missing,'d')", none, "f", ["a", "missing", "'d'"]⟩

theorem sameToStop_aboutMissing :
    Binding.SameToStop [("a", .int 1), ("c", .str "never")] [("a", .int 1)] none
      (some (Dict.ofList [("c", "X")])) aboutMissing.keys aboutMissing'.keys := by
  have hstop : Binding.stop [("a", .int 1), ("c", .str "never")] none aboutMissing.keys = 1 := rfl
  have hkeys : ∀ token ∈ ["a", "missing"], Token.key token ≠ "c" := by decide
  have hkey : ∀ token ∈ ["a", "missing"], ∀ key, Token.LooksUp token key → key ≠ "c" :=
    fun token hmem key hkey => Token.looksUp_iff.1 hkey ▸ hkeys token hmem
  refine ⟨rfl, ?_, ?_, ?_⟩ <;> rw [hstop]
  · rfl
  · intro token hmem key hreads text
    have hne := hkey token hmem key hreads.2
    simp [Token.Registers, Dict.ofList, hne]
  · intro token hmem key hreads
    have hne : (key == "c") = false := beq_false_of_ne (hkey token hmem key hreads.1.2)
    simp only [Json.Fields.get?, List.lookup_cons, hne]

/-- The last key is not looked at, nor is what stands under it. -/
theorem eager_arguments_stop_aboutMissing :
    (Binding.bind aboutMissing' [("a", .int 1)] (some (Dict.ofList [("c", "X")])) .eager).args =
        [.int 1, .null, .null] ∧
      (Binding.bind aboutMissing [("a", .int 1), ("c", .str "never")] none .eager).kinds[2]? =
        some .any :=
  ⟨(eager_arguments_stop.2 aboutMissing aboutMissing' _ _ _ _ rfl sameToStop_aboutMissing).1,
    ((eager_arguments_stop.1 aboutMissing [("a", .int 1), ("c", .str "never")] none).2 2 "c"
      rfl).2.2 (by decide) |>.2⟩

end Backend

end Switchboard
