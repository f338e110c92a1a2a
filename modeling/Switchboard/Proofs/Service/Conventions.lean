import Switchboard.Proofs.Native.Arguments
import Switchboard.Proofs.Service.Admission
import Switchboard.Script.Plain.Engine

/-!
# Functions for one kind of call in the other

A function is registered for lazy or for eager calls, and a call is bound lazily
or eagerly by the settings.  Only the kinds of the arguments decide which
function of a name runs, so the two need not agree: a function for lazy calls
also runs in an eager call of an object and texts, and a function for eager
calls also runs in a lazy call if its parameters take an object and texts.

## Main definitions

* `Service.Handover`: what a function is handed, by how it was registered and
  how the call was bound.

## Main statements

* `Service.handover_of_mem_effects`: what a function that runs was handed.
* `Service.not_forall_convention_eq_resolution`: a function for one kind of call
  can run in the other, either way round.
-/

namespace Switchboard

open Native

namespace Backend

variable {ν σ : Type}

/-- A native function that runs in a call runs on the native backend. -/
theorem mem_runNative_of_mem_run {natives : Table ν} {host : Script.Host σ} {entry : Entry}
    {call : Call} {context : Json.Fields} {resolution : Resolution}
    {fragments : Option Fragments} {memory : Memory ν σ} {name : String} {row : Nat}
    {args : List Json}
    (h : .native name row args ∈
      (run natives host entry call context resolution fragments memory).effects) :
    .native name row args ∈ (runNative natives (Binding.bind call context fragments
      resolution) memory.natives).effects := by
  unfold run at h
  split at h
  · rcases runScript_cases host entry (Binding.bind call context fragments .eager)
        memory.scripts with
      ⟨-, hrun⟩ | ⟨source, -, ⟨words, t, -, hrun⟩ | ⟨t, -, hrun⟩⟩
    all_goals
      rw [hrun] at h
      simp at h
  · exact h

end Backend

/-- What suits a function in a lazy call: its first parameter takes an object,
and it has one more for each key, which takes a text. -/
theorem Native.Overload.params_of_suits_lazy_call {ν : Type} {overload : Overload ν}
    {context : Json.Fields} {keys : List String}
    (h : overload.Suits (.obj context :: keys.map .str)) :
    ∃ first rest, overload.params = first :: rest ∧ (first = .object ∨ first = .any) ∧
      rest.length = keys.length ∧ ∀ param ∈ rest, param = .text ∨ param = .any := by
  rw [Overload.suits_iff_forall₂] at h
  obtain ⟨first, rest, hfirst, hrest, hparams⟩ := List.forall₂_cons_right_iff.1 h
  refine ⟨first, rest, hparams, hfirst.symm, by simpa using hrest.length_eq, ?_⟩
  intro param hmem
  obtain ⟨i, hi, rfl⟩ := List.mem_iff_getElem.1 hmem
  have hi' : i < (keys.map Json.str).length := hrest.length_eq ▸ hi
  have htakes := (List.forall₂_iff_get.1 hrest).2 i hi hi'
  simpa [Kind.Takes, Kind.of, or_comm] using htakes

namespace Service

variable {ν σ : Type}

/-- What a function is handed, by how the call was bound in which it runs and
how it was registered. -/
inductive Handover (call : Call) (context : Json.Fields) (fragments : Option Fragments)
    (args : List Json) : Resolution → Registration ν → Prop
  /-- In a lazy call a function for lazy calls has the data context as its
  request, and the keys of the call as they are written. -/
  | keys {name : String} {run : Native.Request → ν → Except Native.Fault Json × ν}
      (hrequest : Native.Request.ofArgs args = .ok ⟨context, call.keys.map .str⟩) :
      Handover call context fragments args .lazy (.lazy name call.keys.length run)
  /-- In an eager call a function for eager calls has the values of the keys. -/
  | values {name : String} {params : List Kind} {run : List Json → ν → Except Native.Fault Json × ν}
      (hargs : args = Binding.values context fragments call.keys) :
      Handover call context fragments args .eager (.eager name params run)
  /-- A function for lazy calls only runs in an eager call if the first key
  means an object and each other one a text; these are its request and keys. -/
  | valuesAsKeys {name : String} {run : Native.Request → ν → Except Native.Fault Json × ν}
      {object : Json.Fields} {texts : List String}
      (hvalues : Binding.values context fragments call.keys = .obj object :: texts.map .str)
      (hrequest : Native.Request.ofArgs args = .ok ⟨object, texts.map .str⟩) :
      Handover call context fragments args .eager (.lazy name texts.length run)
  /-- A function for eager calls only runs in a lazy call if its first parameter
  takes an object and each other one a text, one for each key; it has the data
  context and the keys as values. -/
  | keysAsValues {name : String} {params : List Kind} {first : Kind} {rest : List Kind}
      {run : List Json → ν → Except Native.Fault Json × ν} (hparams : params = first :: rest)
      (hfirst : first = .object ∨ first = .any) (hlength : rest.length = call.keys.length)
      (hrest : ∀ param ∈ rest, param = .text ∨ param = .any)
      (hargs : args = .obj context :: call.keys.map .str) :
      Handover call context fragments args .lazy (.eager name params run)

theorem handover_of_suits {call : Call} {context : Json.Fields} {fragments : Option Fragments}
    {resolution : Resolution} {registration : Registration ν}
    (h : registration.overload.Suits (Binding.bind call context fragments resolution).args) :
    Handover call context fragments (Binding.bind call context fragments resolution).args
      resolution registration := by
  cases registration with
  | lazy name keys run =>
    obtain ⟨object, texts, hargs, rfl⟩ := Overload.suits_lazy_iff.1 h
    cases resolution with
    | lazy =>
      have hlength : texts.length = call.keys.length := by
        simpa [Binding.bind] using (congrArg List.length hargs).symm
      rw [hlength]
      exact .keys rfl
    | eager => exact .valuesAsKeys hargs (Native.Request.ofArgs_eq_ok_iff.2 hargs)
  | eager name params run =>
    cases resolution with
    | lazy =>
      obtain ⟨first, rest, hparams, hfirst, hlength, hrest⟩ :=
        Overload.params_of_suits_lazy_call h
      exact .keysAsValues hparams hfirst hlength hrest rfl
    | eager => exact .values rfl

/-- A native function only runs in a call that an entry permits, and is handed
what the way in which it was registered and the way in which the call was bound
say: a function for lazy calls has the data context and the keys of the call if
the call is lazy, and a function runs in a call of the other kind only if that
call is, or it takes, an object and texts. -/
theorem handover_of_mem_effects (registrations : List (Registration ν)) (host : Script.Host σ)
    (settings : Settings) (request : Request) (s : State ν σ) {name : String} {row : Nat}
    {args : List Json}
    (h : .native name row args ∈
      (invoke ⟨.ofRegistrations registrations, host, settings⟩ request s).effects) :
    ∃ call entry registration, Permits settings s.registry request call entry ∧
      registrations[row]? = some registration ∧
      registration.overload.name = call.method ∧
      Handover call request.context request.fragments args settings.resolution registration := by
  cases hadmission : admission settings s.registry request with
  | error e =>
    rw [invoke_of_refused hadmission] at h
    exact absurd h List.not_mem_nil
  | ok admitted =>
    obtain ⟨call, entry⟩ := admitted
    have hpermits := admission_eq_ok_iff.1 hadmission
    rw [invoke_of_permits hpermits] at h
    obtain ⟨hargs, overload, hrow, hname, -, hsuits⟩ :=
      Backend.suits_of_mem_runNative (Backend.mem_runNative_of_mem_run h)
    rw [Table.rows_ofRegistrations, List.getElem?_map, Option.map_eq_some_iff] at hrow
    obtain ⟨registration, hregistration, rfl⟩ := hrow
    rw [Binding.call_bind] at hname
    subst hargs
    exact ⟨call, entry, registration, hpermits, hregistration, hname, handover_of_suits hsuits⟩

/-! ## A function of each kind in a call of the other -/

section

open Script.Plain (plain)

/-- A registry that opens both names of `Native.getAndPair` to everyone. -/
def getAndPairRegistry : Registry :=
  Dict.ofList [("get", .native), ("pair", .native)]

/-- A request of a caller that nothing is known of, without fragments. -/
def about (text : String) (context : Json.Fields) : Request :=
  ⟨text, context, .anonymous, none⟩

/-- The function of a registration runs in the first call of a service. -/
def Runs (registrations : List (Registration Unit)) (settings : Settings) (registry : Registry)
    (request : Request) (registration : Registration Unit) : Prop :=
  ∃ name row args, registrations[row]? = some registration ∧
    .native name row args ∈ ((embedding plain (.ofRegistrations registrations) settings).invoke
      request (State.fresh plain registry ())).effects

/-- In an eager call `get` has the object that its first key means as its
request, and what its second key means as its key. -/
theorem handover_get_user_name :
    ∃ call entry registration,
      Permits { Settings.standard with resolution := .eager } getAndPairRegistry
        (about "get(user,name)" userAndName) call entry ∧
      getAndPair[1]? = some registration ∧ registration.overload.name = call.method ∧
      Handover call userAndName none [.obj [("id", .int 7)], .str "id"] .eager registration := by
  have hmem : .native "get" 1 [.obj [("id", .int 7)], .str "id"] ∈
      ((embedding plain (.ofRegistrations getAndPair)
        { Settings.standard with resolution := .eager }).invoke
        (about "get(user,name)" userAndName) (State.fresh plain getAndPairRegistry ())).effects :=
    List.mem_singleton.2 rfl
  exact handover_of_mem_effects _ _ _ _ _ hmem

/-- A function for lazy calls can run in an eager call, and a function for eager
calls in a lazy one. -/
theorem not_forall_convention_eq_resolution :
    (¬ ∀ registrations settings registry request registration,
        Runs registrations settings registry request registration →
        registration.overload.convention = .lazy → settings.resolution = .lazy) ∧
      ¬ ∀ registrations settings registry request registration,
        Runs registrations settings registry request registration →
        registration.overload.convention = .eager → settings.resolution = .eager := by
  constructor
  · intro h
    have hruns : Runs getAndPair { Settings.standard with resolution := .eager }
        getAndPairRegistry (about "get(user,name)" userAndName)
        (.lazy "get" 1 (stateless fun request => request.value 0)) :=
      ⟨"get", 1, [.obj [("id", .int 7)], .str "id"], rfl, List.mem_singleton.2 rfl⟩
    exact absurd (h _ _ _ _ _ hruns rfl) (by decide)
  · intro h
    have hruns : Runs getAndPair .standard getAndPairRegistry
        (about "pair(name)" userAndName)
        (.eager "pair" [.object, .any] (stateless fun args => .ok (.arr args))) :=
      ⟨"pair", 2, [.obj userAndName, .str "name"], rfl, List.mem_singleton.2 rfl⟩
    exact absurd (h _ _ _ _ _ hruns rfl) (by decide)

end

end Service

end Switchboard
