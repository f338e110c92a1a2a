import Switchboard.Proofs.Call.Lookups
import Switchboard.Proofs.Native.Arguments
import Switchboard.Proofs.Service.Effects
import Switchboard.Script.Plain.Engine

/-!
# What of a context a call can show

A call names keys of the data context, and only what stands there can show in its
answer.  Bound eagerly it is handed nothing else.  Bound lazily it is handed the
whole context, so there it takes the functions themselves: those of the stock ask
for nothing but the meaning of their keys.

## Main definitions

* `Native.Request.Alike`: requests with the same keys, which mean the same in both.
* `Native.Overload.ReadsByKeys`: a function learns of a context only what its keys mean.

## Main statements

* `Native.readsByKeys_of_mem_stock`: so do all functions of the stock.
* `Backend.run_congr`: a call runs alike in contexts that agree on the keys it names.
* `Service.invoke_congr`: such a call is answered alike.
-/

namespace Switchboard

namespace Native

variable {ν : Type}

/-! ## Functions that read by keys -/

/-- Two requests have the same keys, and each means the same in both. -/
structure Request.Alike (request request' : Request) : Prop where
  key_eq : ∀ i, request.key i = request'.key i
  value_eq : ∀ i, request.value i = request'.value i

/-- Requests for the same keys of contexts that agree on them are alike. -/
theorem Request.alike_of_agreeOn {tokens : List String} {context context' : Json.Fields}
    (h : Json.Fields.AgreeOn tokens context context') :
    Request.Alike ⟨context, tokens.map .str⟩ ⟨context', tokens.map .str⟩ := by
  refine ⟨fun i => rfl, fun i => ?_⟩
  by_cases hi : i < tokens.length
  · rw [(Request.key_of_texts hi).2, (Request.key_of_texts hi).2,
      Token.resolve_congr h (List.getElem_mem hi)]
  · simp [Request.value, Request.key, List.getElem?_eq_none (Nat.le_of_not_lt hi), Except.map]

/-- Of the context in a request a function learns only what the keys mean. -/
def Overload.ReadsByKeys (overload : Overload ν) : Prop :=
  ∀ (context context' : Json.Fields) (texts : List String),
    Request.Alike ⟨context, texts.map .str⟩ ⟨context', texts.map .str⟩ →
    overload.Suits (.obj context :: texts.map .str) →
    overload.run (.obj context :: texts.map .str) = overload.run (.obj context' :: texts.map .str)

theorem Overload.readsByKeys_lazy {name : String} {keys : Nat}
    {run : Request → ν → Except Fault Json × ν}
    (h : ∀ request request', Request.Alike request request' → run request = run request') :
    (Overload.lazy name keys run).ReadsByKeys :=
  fun _ _ _ halike _ => h _ _ halike

/-- A function whose first parameter is a number is handed no request. -/
theorem Overload.readsByKeys_number {name : String} {params : List Kind}
    {run : List Json → ν → Except Fault Json × ν} :
    (Overload.eager name (.number :: params) run).ReadsByKeys := by
  intro context context' texts _ hsuits
  obtain ⟨n, hn⟩ : ∃ n, Json.obj context = .num n :=
    Kind.takes_number_iff.1 (List.forall₂_cons.1 (Overload.suits_iff_forall₂.1 hsuits)).1
  exact nomatch hn

theorem stateless_congr {α β : Type} {f : α → β} {a a' : α} (h : f a = f a') :
    (stateless f a : ν → β × ν) = stateless f a' :=
  funext fun memory => congrArg (·, memory) h

theorem isContain_congr {request request' : Request} (h : Request.Alike request request') :
    isContain request = isContain request' := by
  simp only [isContain, h.key_eq, h.value_eq]

/-- Every function of the stock reads by keys. -/
theorem readsByKeys_of_mem_stock {overload : Overload ν} (hmem : overload ∈ stock.rows) :
    overload.ReadsByKeys := by
  simp only [stock, List.mem_cons, List.not_mem_nil, or_false] at hmem
  rcases hmem with rfl | rfl | rfl | rfl | rfl | rfl
  · exact Overload.readsByKeys_lazy fun _ _ h => stateless_congr (by simp only [h.value_eq])
  · exact Overload.readsByKeys_lazy fun _ _ h => stateless_congr (isContain_congr h)
  · exact Overload.readsByKeys_lazy fun _ _ h => stateless_congr (by simp only [h.value_eq])
  · exact Overload.readsByKeys_lazy fun _ _ h => stateless_congr (by simp only [h.value_eq])
  · exact Overload.readsByKeys_number
  · exact Overload.readsByKeys_number

end Native

/-! ## Running a call -/

namespace Backend

variable {ν σ : Type} {call : Call} {context context' : Json.Fields}

@[simp] theorem filter_isScript_runNative (natives : Native.Table ν) (b : Binding) (memory : ν) :
    (runNative natives b memory).effects.filter Effect.isScript = [] := by
  rcases runNative_cases natives b memory with ⟨row, overload, -, hrun⟩ | ⟨-, hrun⟩ <;>
    simp [hrun, Effect.isScript]

/-- An overload that reads by keys runs alike in lazy calls in contexts that agree. -/
theorem run_lazy_congr {overload : Native.Overload ν} (hreads : overload.ReadsByKeys)
    (fragments : Option Fragments) (h : Json.Fields.AgreeOn call.keys context context')
    (htakes : overload.Takes (Binding.bind call context fragments .lazy).kinds) :
    overload.run (Binding.bind call context fragments .lazy).args =
      overload.run (Binding.bind call context' fragments .lazy).args :=
  hreads context context' call.keys (Native.Request.alike_of_agreeOn h)
    (Native.Overload.suits_of_takes htakes)

/-- A native function that reads by keys ends alike in contexts that agree, and remembers the
same. -/
theorem runNative_congr {natives : Native.Table ν}
    (hreads : ∀ overload ∈ natives.rows, overload.ReadsByKeys) (fragments : Option Fragments)
    (h : Json.Fields.AgreeOn call.keys context context') (resolution : Resolution) (memory : ν) :
    (runNative natives (Binding.bind call context fragments resolution) memory).result =
        (runNative natives (Binding.bind call context' fragments resolution) memory).result ∧
      (runNative natives (Binding.bind call context fragments resolution) memory).memory =
        (runNative natives (Binding.bind call context' fragments resolution) memory).memory := by
  cases resolution with
  | eager =>
    rw [Binding.bind_eager_congr h]
    exact ⟨rfl, rfl⟩
  | lazy =>
    -- A request has the same kinds whatever the context, so the same overload is picked.
    rcases runNative_cases natives (Binding.bind call context fragments .lazy) memory with
      ⟨row, overload, hpicks, hrun⟩ | ⟨hnone, hrun⟩
    · have hsame := run_lazy_congr (hreads overload hpicks.mem) fragments h hpicks.takes
      have hrun' :=
        @runNative_of_picks _ _ (Binding.bind call context' fragments .lazy) _ _ hpicks memory
      rw [hrun, hrun']
      simp only [settle, hsame]
      exact ⟨rfl, trivial⟩
    · have hrun' :=
        @runNative_of_not_takes _ _ (Binding.bind call context' fragments .lazy) hnone memory
      rw [hrun, hrun']
      exact ⟨rfl, rfl⟩

/-- A call runs alike in contexts that agree on the keys it names. -/
theorem run_congr {natives : Native.Table ν}
    (hreads : ∀ overload ∈ natives.rows, overload.ReadsByKeys) (host : Script.Host σ)
    (entry : Entry) (resolution : Resolution) (fragments : Option Fragments)
    (memory : Memory ν σ) (h : Json.Fields.AgreeOn call.keys context context') :
    (run natives host entry call context resolution fragments memory).result =
        (run natives host entry call context' resolution fragments memory).result ∧
      (run natives host entry call context resolution fragments memory).effects.filter
          Effect.isScript =
        (run natives host entry call context' resolution fragments memory).effects.filter
          Effect.isScript ∧
      (run natives host entry call context resolution fragments memory).memory =
        (run natives host entry call context' resolution fragments memory).memory := by
  unfold run
  split
  · rw [Binding.bind_eager_congr h]
    exact ⟨rfl, rfl, rfl⟩
  · obtain ⟨hresult, hmemory⟩ := runNative_congr hreads fragments h resolution memory.natives
    simp only [hresult, hmemory, filter_isScript_runNative, and_self]

end Backend

/-! ## Answering a call -/

namespace Service

variable {ν σ : Type}

/-- Where all native functions read by keys, a call shows nothing of a context but what
stands under the keys that it names. -/
theorem invoke_congr {service : Service ν σ}
    (hreads : ∀ overload ∈ service.natives.rows, overload.ReadsByKeys) (s : State ν σ)
    {text : String} (caller : Caller) (fragments : Option Fragments)
    {context context' : Json.Fields}
    (h : ∀ call, Call.read .remote text = .ok call →
      Json.Fields.AgreeOn call.keys context context') :
    (service.invoke ⟨text, context, caller, fragments⟩ s).result =
        (service.invoke ⟨text, context', caller, fragments⟩ s).result ∧
      (service.invoke ⟨text, context, caller, fragments⟩ s).effects.filter Effect.isScript =
        (service.invoke ⟨text, context', caller, fragments⟩ s).effects.filter Effect.isScript ∧
      (service.invoke ⟨text, context, caller, fragments⟩ s).memory =
        (service.invoke ⟨text, context', caller, fragments⟩ s).memory := by
  -- Whether a call is admitted does not depend on a context.
  have hsame : admission service.settings s.registry ⟨text, context, caller, fragments⟩ =
      admission service.settings s.registry ⟨text, context', caller, fragments⟩ := rfl
  rcases admission_cases service.settings s.registry ⟨text, context, caller, fragments⟩ with
    ⟨e, hrefused⟩ | ⟨call, entry, hpermits⟩
  · rw [invoke_of_refused hrefused, invoke_of_refused (hsame ▸ hrefused)]
    exact ⟨rfl, rfl, rfl⟩
  · have hpermits' : Permits service.settings s.registry ⟨text, context', caller, fragments⟩
        call entry :=
      ⟨hpermits.remote, ⟨hpermits.asks.reads, hpermits.asks.listed⟩, hpermits.admits⟩
    obtain ⟨hresult, heffects, hmemory⟩ := Backend.run_congr hreads service.host entry
      service.settings.resolution fragments s.memory (h call hpermits.asks.reads)
    rw [invoke_of_permits hpermits, invoke_of_permits hpermits']
    exact ⟨by simp only [hresult], heffects, hmemory⟩

/-- With the functions of the stock, contexts that agree on every key that a call names
give the same answer or the same error, have the host of scripts asked for the same, and
leave everything in the same state. -/
theorem invoke_stock_of_agreeOn (host : Script.Host σ) (settings : Settings) (s : State ν σ)
    (text : String) (caller : Caller) (fragments : Option Fragments)
    (context context' : Json.Fields)
    (h : ∀ call, Call.read .remote text = .ok call →
      Json.Fields.AgreeOn call.keys context context') :
    let service : Service ν σ := ⟨Native.stock, host, settings⟩
    let ran := service.invoke ⟨text, context, caller, fragments⟩ s
    let ran' := service.invoke ⟨text, context', caller, fragments⟩ s
    ran.result = ran'.result ∧
      ran.effects.filter Effect.isScript = ran'.effects.filter Effect.isScript ∧
      ran.memory = ran'.memory :=
  invoke_congr (fun _ hmem => Native.readsByKeys_of_mem_stock hmem) s caller fragments h

/-- A context with a number and something that a call of that number has no part in. -/
def idAndSecret (secret : String) : Json.Fields :=
  [("id", .int 4), ("secret", .str secret)]

theorem agreeOn_idAndSecret (secret secret' : String) :
    Json.Fields.AgreeOn ["\x60id\x60"] (idAndSecret secret) (idAndSecret secret') := by
  intro token hmem key hnames
  obtain rfl := List.mem_singleton.1 hmem
  have hother : (key == "secret") = false := by
    rw [beq_eq_false_iff_ne]
    rintro rfl
    exact absurd hnames (by decide)
  simp only [idAndSecret, Json.Fields.get?, List.lookup_cons, hother]

/-- A registry that opens `isEven` to everyone. -/
def justIsEven : Registry :=
  Dict.ofList [("isEven", .native)]

section

open Script.Plain (plain)

/-- Handed the whole context, `isEven` shows nothing of the secret in it. -/
theorem invoke_stock_idAndSecret :
    (∀ call, Call.read .remote "isEven(\x60id\x60)" = .ok call →
      Json.Fields.AgreeOn call.keys (idAndSecret "a") (idAndSecret "b")) ∧
    ((embedding plain Native.stock .standard).invoke
      ⟨"isEven(\x60id\x60)", idAndSecret "b", .anonymous, none⟩
      (State.fresh plain justIsEven ())).result = .ok (.bool true) := by
  have hagree : ∀ call, Call.read .remote "isEven(\x60id\x60)" = .ok call →
      Json.Fields.AgreeOn call.keys (idAndSecret "a") (idAndSecret "b") := by
    rintro call ⟨⟩
    exact agreeOn_idAndSecret "a" "b"
  have hanswer : ((embedding plain Native.stock .standard).invoke
      ⟨"isEven(\x60id\x60)", idAndSecret "a", .anonymous, none⟩
      (State.fresh plain justIsEven ())).result = .ok (.bool true) := rfl
  exact ⟨hagree, (invoke_stock_of_agreeOn _ _ (State.fresh plain justIsEven ()) _
    .anonymous none _ _ hagree).1.symm.trans hanswer⟩

end

end Service

end Switchboard
