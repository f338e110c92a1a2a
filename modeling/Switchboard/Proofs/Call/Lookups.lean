import Switchboard.Call.Binding

/-!
# What a call looks up

A token names a few keys of the data context: itself, and what stands between its
backquotes.  The value of a token depends on the context only through these, so two
contexts that agree on the keys that a call names bind it to the same values.

## Main definitions

* `Token.Names`: the keys that a token names.
* `Json.Fields.AgreeOn`: contexts with the same values under all keys that are named.

## Main statements

* `Token.enclosed?_eq_some_iff`: what stands between two quotes.
* `Token.names_key`: the key that a token looks up is one that it names.
* `Binding.values_congr`: contexts that agree give the same values.
-/

namespace Switchboard

namespace Token

/-- A token names a key: the key is the token, or the token is the key in backquotes. -/
def Names (token key : String) : Prop :=
  key = token ∨ token = "\x60" ++ key ++ "\x60" ∧ '\x60' ∉ key.toList

instance (token key : String) : Decidable (Names token key) :=
  inferInstanceAs (Decidable (_ ∨ _ ∧ _))

@[simp] theorem enclosed?_eq_some_iff {quote : Char} {cs inner : List Char} :
    enclosed? quote cs = some inner ↔ cs = quote :: (inner ++ [quote]) ∧ quote ∉ inner := by
  cases cs with
  | nil => simp [enclosed?]
  | cons first rest =>
    rw [enclosed?, Option.ite_none_right_eq_some, List.cons.injEq, Option.some.injEq,
      List.getLast?_eq_some_iff]
    constructor
    · rintro ⟨⟨hfirst, ⟨between, rfl⟩, hnone⟩, rfl⟩
      rw [List.dropLast_concat] at hnone ⊢
      exact ⟨⟨hfirst, rfl⟩, hnone⟩
    · rintro ⟨⟨hfirst, rfl⟩, hnone⟩
      rw [List.dropLast_concat]
      exact ⟨⟨hfirst, ⟨inner, rfl⟩, hnone⟩, rfl⟩

/-- The key that a token looks up is one that it names. -/
theorem names_key (token : String) : Names token (key token) := by
  unfold key
  split
  · rename_i inner henclosed
    obtain ⟨htoken, hnone⟩ := enclosed?_eq_some_iff.1 henclosed
    refine Or.inr ⟨String.toList_injective ?_, by simpa using hnone⟩
    simp [htoken]
  · exact Or.inl rfl

end Token

/-- Two contexts have the same value, or both have none, under each key that one of
the tokens names. -/
def Json.Fields.AgreeOn (tokens : List String) (context context' : Json.Fields) : Prop :=
  ∀ token ∈ tokens, ∀ key, Token.Names token key → context.get? key = context'.get? key

section

variable {tokens : List String} {context context' : Json.Fields}

/-- A token means the same in contexts that agree on the keys that it names. -/
theorem Token.resolve_congr (h : Json.Fields.AgreeOn tokens context context') {token : String}
    (hmem : token ∈ tokens) (fragments : Option Fragments) :
    Token.resolve token context fragments = Token.resolve token context' fragments := by
  unfold Token.resolve Token.lookUp
  rw [h token hmem (Token.key token) (Token.names_key token)]

namespace Binding

/-- Contexts that agree give the same values. -/
theorem values_congr (h : Json.Fields.AgreeOn tokens context context')
    (fragments : Option Fragments) :
    values context fragments tokens = values context' fragments tokens := by
  induction tokens with
  | nil => rfl
  | cons token rest ih =>
    have hhead := Token.resolve_congr h List.mem_cons_self fragments
    have hrest := ih fun other hmem => h other (List.mem_cons_of_mem token hmem)
    simp only [values, hhead, hrest]

/-- Bound eagerly, a call is the same in contexts that agree on the keys that it names. -/
theorem bind_eager_congr {call : Call} (h : Json.Fields.AgreeOn call.keys context context')
    (fragments : Option Fragments) :
    bind call context fragments .eager = bind call context' fragments .eager :=
  congrArg (Binding.mk call .eager) (values_congr h fragments)

end Binding

end

end Switchboard
