import Switchboard.Proofs.Call.Stopping
import Switchboard.Proofs.Native.Arguments
import Switchboard.Proofs.Service.Resolutions

/-!
# Values handed over and values looked up

A lazy function that looks up a key finds what an eager one is handed for it, as long as
no key before means nothing.  `isEven` is registered for both, and so a call of it with
one key has the same value whichever way its argument is handed over, or has none.

## Main definitions

* `Resolution.fragments`: the fragments that keys mean, by the way they are handed over.

## Main statements

* `Backend.runNative_isEven_eq_ok_iff`: which value `isEven` has, bound in either way.
* `Service.invoke_isEven_eq_ok_iff`: which value a call of it has.
* `Service.lazy_agrees_with_eager`: both ways agree.
-/

namespace Switchboard

/-- The fragments that a key of a call may mean, where there are any: a function that looks
its keys up itself has none. -/
def Resolution.fragments (fragments : Option Fragments) : Resolution → Option Fragments
  | .eager => fragments
  | .lazy => none

@[simp] theorem Resolution.fragments_none (resolution : Resolution) :
    resolution.fragments none = none := by
  cases resolution <;> rfl

/-- One key has its own value, whether that is `null` or not. -/
@[simp] theorem Binding.values_singleton (context : Json.Fields) (fragments : Option Fragments)
    (key : String) : values context fragments [key] = [Token.resolve key context fragments] := by
  simp only [values]
  split
  · rename_i hnull
    rw [Json.isNull_iff.1 hnull]
    rfl
  · rfl

namespace Backend

open Native

variable {ν : Type}

/-- Whichever way its key is handed over, `isEven` returns a value exactly if what the key
means has one, and then this one. -/
theorem runNative_isEven_eq_ok_iff {call : Call} {key : String} {context : Json.Fields}
    {fragments : Option Fragments} {resolution : Resolution} {memory : ν} {v : Json}
    (hmethod : call.method = "isEven") (hkeys : call.keys = [key]) :
    (runNative stock (Binding.bind call context fragments resolution) memory).result = .ok v ↔
      isEven (Token.resolve key context (resolution.fragments fragments)) = .ok v := by
  obtain ⟨text, schema, method, keys⟩ := call
  subst hmethod hkeys
  cases resolution with
  | lazy =>
    have hfound : (stock : Table ν).lookUp "isEven" [.obj context, .str key] = .found 0 _ := rfl
    rw [runNative_of_found hfound, settle_eq_ok_iff]
    rfl
  | eager =>
    rw [Binding.bind, Binding.values_singleton, Resolution.fragments]
    cases Token.resolve key context fragments with
    | num n =>
      have hfound : (stock : Table ν).lookUp "isEven" [.num n] = .found 4 _ := rfl
      rw [runNative_of_found hfound, settle_eq_ok_iff]
      rfl
    | _ =>
      -- No overload takes a value of another kind, and `isEven` itself would refuse it.
      constructor <;> rintro ⟨⟩

/-- What `isEven` says of a number that it refuses is what the call fails with. -/
theorem runNative_isEven_of_error {call : Call} {key : String} {context : Json.Fields}
    {fragments : Option Fragments} {resolution : Resolution} {memory : ν} {n : Json.Number}
    {words : String} (hmethod : call.method = "isEven") (hkeys : call.keys = [key])
    (hmeans : Token.resolve key context (resolution.fragments fragments) = .num n)
    (hfault : isEven (.num n) = .error ⟨words⟩) (hwords : Text.isAllBlank words = false) :
    (runNative stock (Binding.bind call context fragments resolution) memory).result =
      .error (.target words) := by
  obtain ⟨text, schema, method, keys⟩ := call
  subst hmethod hkeys
  cases resolution with
  | lazy =>
    have hfound : (stock : Table ν).lookUp "isEven" [.obj context, .str key] = .found 0 _ := rfl
    have hrun : isEven (Token.resolve key context none) = .error ⟨words⟩ := hmeans ▸ hfault
    rw [runNative_of_found hfound]
    exact settle_of_error hrun hwords
  | eager =>
    have hfound : (stock : Table ν).lookUp "isEven" [.num n] = .found 4 _ := rfl
    rw [Resolution.fragments] at hmeans
    rw [Binding.bind, Binding.values_singleton, hmeans, runNative_of_found hfound]
    exact settle_of_error hfault hwords

end Backend

namespace Service

variable {ν σ : Type}

/-- A call of `isEven` by the entry of a native function has the value of the stock's
function, if this goes with what the entry declares, whichever way its key is handed over. -/
theorem invoke_isEven_eq_ok_iff {host : Script.Host σ} {settings : Settings} {s : State ν σ}
    {request : Request} {text key : String} {schema : Option String} {entry : Entry}
    (h : Permits settings s.registry request ⟨text, schema, "isEven", [key]⟩ entry)
    (hnative : entry.execution = .native) (hnone : request.fragments = none)
    (resolution : Resolution) {v : Json} :
    ((Service.resolving ⟨Native.stock, host, settings⟩ resolution).invoke request s).result =
        .ok v ↔
      ∃ w, Native.isEven (Token.resolve key request.context none) = .ok w ∧
        checkResult settings "isEven" entry w = .ok v := by
  have hpermits := @Permits.resolving ν σ ⟨Native.stock, host, settings⟩ _ _ _ _ h resolution
  rw [invoke_of_permits hpermits]
  simp only [Backend.run, hnative, hnone]
  refine Iff.trans bind_eq_ok_iff (exists_congr fun w => and_congr ?_ Iff.rfl)
  have hran := @Backend.runNative_isEven_eq_ok_iff ν ⟨text, schema, "isEven", [key]⟩ key
    request.context none resolution s.memory.natives w rfl rfl
  rw [Resolution.fragments_none] at hran
  exact mapError_eq_ok_iff.trans hran

/-- What a lazy function finds for a key is what an eager one is handed for it, if no key
before means nothing; else the eager one is handed `null`.  So a call of `isEven` with one
key has the same value, if it has one, whichever way the key is handed over. -/
theorem lazy_agrees_with_eager :
    (∀ (call : Call) (context : Json.Fields),
      let b := Binding.bind call context none .eager
      ∃ request, Native.Request.ofArgs (Binding.bind call context none .lazy).args = .ok request ∧
        (∀ i < call.keys.length, ∃ v, request.value i = .ok v ∧
          (¬ Binding.Stopped context none call.keys i → b.args[i]? = some v) ∧
          (Binding.Stopped context none call.keys i →
            b.args[i]? = some .null ∧ b.kinds[i]? = some .any)) ∧
        ∀ i, call.keys.length ≤ i → (∃ fault, request.value i = .error fault) ∧
          b.args[i]? = none) ∧
    ∀ (host : Script.Host σ) (settings : Settings) (s : State ν σ) (text : String)
        (context : Json.Fields) (caller : Caller) (call : Call) (key : String) (v : Json),
      Call.read .remote text = .ok call → call.method = "isEven" → call.keys = [key] →
      let service : Service ν σ := ⟨Native.stock, host, settings⟩
      ((service.resolving .eager).invoke ⟨text, context, caller, none⟩ s).result = .ok v ↔
        ((service.resolving .lazy).invoke ⟨text, context, caller, none⟩ s).result = .ok v := by
  constructor
  · intro call context b
    refine ⟨⟨context, call.keys.map .str⟩, rfl, ?_, ?_⟩
    · intro i hi
      have hkey := List.getElem?_eq_getElem hi
      obtain ⟨hstopped, hgoes⟩ := @Binding.getElem?_values context none _ _ _ hkey
      refine ⟨_, (Native.Request.key_of_texts hi).2, hgoes, fun h => ?_⟩
      exact ⟨hstopped h, Binding.getElem?_kinds (b := b) (hstopped h)⟩
    · intro i hi
      have hargs : b.args.length ≤ i := (Binding.length_values context none call.keys).trans_le hi
      refine ⟨Native.Request.value_of_length_le ?_, List.getElem?_eq_none hargs⟩
      rwa [List.length_map]
  · intro host settings s text context caller call key v hread hmethod hkeys service
    rcases admission_cases settings s.registry ⟨text, context, caller, none⟩ with
      ⟨e, hrefused⟩ | ⟨call', entry, hpermits⟩
    · have hrefused' : admission service.settings s.registry ⟨text, context, caller, none⟩ =
          .error e := hrefused
      rw [invoke_resolving_of_refused hrefused', invoke_resolving_of_refused hrefused']
    obtain rfl : call' = call := Except.ok.inj (hpermits.asks.reads.symm.trans hread)
    rcases hpermits.admits.execution with hnative | ⟨hscript, -⟩
    · obtain ⟨text', schema, method, keys⟩ := call'
      subst hmethod hkeys
      rw [invoke_isEven_eq_ok_iff hpermits hnative rfl,
        invoke_isEven_eq_ok_iff hpermits hnative rfl]
    · rw [invoke_resolving_of_script hpermits hscript, invoke_resolving_of_script hpermits hscript]

/-- Behind a key that means nothing only the lazy call has a value; and 4 is even both ways. -/
theorem lazy_agrees_with_eager_aboutMissing :
    (∃ request, Native.Request.ofArgs (Binding.bind Backend.aboutMissing
          [("a", .int 1), ("c", .str "never")] none .lazy).args = .ok request ∧
        request.value 2 = .ok (.str "never") ∧
        (Binding.bind Backend.aboutMissing [("a", .int 1), ("c", .str "never")] none
          .eager).args[2]? = some .null) ∧
      ((Service.resolving ⟨Native.stock, echoing.host, .standard⟩ .lazy).invoke
        ⟨"isEven(n)", [("n", .int 4)], .anonymous, none⟩
        ⟨Dict.ofList [("isEven", .native)], (), ()⟩).result = .ok (.bool true) := by
  constructor
  · obtain ⟨request, hrequest, hvalues, -⟩ :=
      (@lazy_agrees_with_eager Unit Unit).1 Backend.aboutMissing
        [("a", .int 1), ("c", .str "never")]
    obtain ⟨-, -, -, hstopped⟩ := hvalues 2 (by decide)
    refine ⟨request, hrequest, ?_, (hstopped ⟨"missing", by decide, rfl⟩).1⟩
    obtain rfl := Except.ok.inj hrequest
    rfl
  · exact (lazy_agrees_with_eager.2 echoing.host .standard _ "isEven(n)" _ .anonymous _ "n" _ rfl
      rfl rfl).1 rfl

end Service

end Switchboard
