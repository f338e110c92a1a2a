import Switchboard.Proofs.Service.Admission
import Switchboard.Proofs.Service.Dispatch
import Switchboard.Proofs.Service.Runs

/-!
# What a call does outside the service

A call does nothing unless it is admitted, and then it does only what its entry
is for: an entry of a native function lets one function of the table run, an
entry of a script lets the host load that script and, if the load succeeds, call
the function once.

The effects that a run lists are tied to the host by a host that keeps its own
record of what it is asked.

## Main definitions

* `Service.Footprint`: the effects that an admitted call has.
* `Script.Host.recording`: a host that records what it is asked.

## Main statements

* `Service.footprint_run`: an admitted call has just these effects.
* `Service.effects_authorized`: no effect without an entry that permits it, at
  any step of any run.
-/

namespace Switchboard

/-- The host of scripts is asked for something. -/
def Effect.isScript : Effect → Bool
  | .native .. => false
  | .load _ => true
  | .call .. => true

namespace Script.Host

variable {σ : Type}

/-- The host with a record of what it is asked, in order. -/
def recording (host : Host σ) : Host (σ × List Effect) where
  load source s := ((host.load source s.1).1, (host.load source s.1).2, s.2 ++ [.load source])
  call name args s :=
    ((host.call name args s.1).1, (host.call name args s.1).2, s.2 ++ [.call name args])

end Script.Host

namespace Backend

variable {ν σ : Type}

/-- All that a script does outside is what its host is asked, in that order. -/
theorem runScript_recording (host : Script.Host σ) (entry : Entry) (b : Binding) (s : σ)
    (asked : List Effect) :
    (runScript host.recording entry b (s, asked)).memory.2 =
      asked ++ (runScript host entry b s).effects.filter Effect.isScript := by
  rcases runScript_cases host entry b s with
    ⟨hnone, hrun⟩ | ⟨source, hsource, ⟨words, t, hload, hrun⟩ | ⟨t, hload, hrun⟩⟩
  · simp [runScript, hnone]
  · rw [hrun]
    simp [runScript, hsource, Script.Host.recording, hload]
    rfl
  · rw [hrun]
    simp [runScript, hsource, Script.Host.recording, hload]
    rfl

/-- What the host is asked while a call runs is what its effects say. -/
theorem run_recording (natives : Native.Table ν) (host : Script.Host σ) (entry : Entry)
    (call : Call) (context : Json.Fields) (resolution : Resolution)
    (fragments : Option Fragments) (memory : Memory ν σ) (asked : List Effect) :
    (run natives host.recording entry call context resolution fragments
        ⟨memory.natives, memory.scripts, asked⟩).memory.scripts.2 =
      asked ++ (run natives host entry call context resolution fragments memory).effects.filter
        Effect.isScript := by
  unfold run
  split
  · exact runScript_recording host entry _ memory.scripts asked
  · rcases runNative_cases natives (Binding.bind call context fragments resolution)
        memory.natives with
      ⟨row, overload, -, hrun⟩ | ⟨-, hrun⟩ <;> simp [hrun, Effect.isScript]

end Backend

namespace Service

variable {ν σ : Type}

/-- The service whose host records what it is asked. -/
def recording (service : Service ν σ) : Service ν (σ × List Effect) :=
  ⟨service.natives, service.host.recording, service.settings⟩

/-- The effects of a call that may be made by an entry, with a host in a state. -/
inductive Footprint (service : Service ν σ) (request : Request) (scripts : σ) (call : Call)
    (entry : Entry) : List Effect → Prop
  /-- No function of the name takes the arguments. -/
  | noCallable (hnative : entry.execution = .native)
      (hnone : ∀ overload ∈ service.natives.rows, overload.name = call.method →
        ¬ overload.Takes (Binding.bind call request.context request.fragments
          service.settings.resolution).kinds) :
      Footprint service request scripts call entry []
  /-- The first function of the name that takes the arguments runs on them. -/
  | callable {row : Nat} {overload : Native.Overload ν} (hnative : entry.execution = .native)
      (hpicks : service.natives.Picks call.method (Binding.bind call request.context
        request.fragments service.settings.resolution).kinds row overload) :
      Footprint service request scripts call entry
        [.native call.method row (Binding.bind call request.context request.fragments
          service.settings.resolution).args]
  /-- The entry has no script, or a blank one. -/
  | noSource (hscript : entry.execution = .script)
      (hnone : ∀ source, entry.source = some source → Text.isAllBlank source = true) :
      Footprint service request scripts call entry []
  /-- The script of the entry is loaded, in vain. -/
  | loadFails {source words : String} (hscript : entry.execution = .script)
      (hsource : entry.source = some source) (hblank : Text.isAllBlank source = false)
      (hload : (service.host.load source scripts).1 = .error words) :
      Footprint service request scripts call entry [.load source]
  /-- The script of the entry is loaded, and then its function called once on
  the values of the keys. -/
  | called {source : String} (hscript : entry.execution = .script)
      (hsource : entry.source = some source) (hblank : Text.isAllBlank source = false)
      (hload : (service.host.load source scripts).1 = .ok ()) :
      Footprint service request scripts call entry
        [.load source,
          .call call.method (Binding.values request.context request.fragments call.keys)]

/-- An admitted call has just the effects that its entry is for. -/
theorem footprint_run {service : Service ν σ} {request : Request} {call : Call} {entry : Entry}
    (hruns : Gate.Runs service.settings entry) (memory : Memory ν σ) :
    Footprint service request memory.scripts call entry
      (Backend.run service.natives service.host entry call request.context
        service.settings.resolution request.fragments memory).effects := by
  rcases hruns with hnative | ⟨hscript, -⟩
  · simp only [Backend.run, hnative]
    rcases Backend.runNative_cases service.natives (Binding.bind call request.context
        request.fragments service.settings.resolution) memory.natives with
      ⟨row, overload, hpicks, hrun⟩ | ⟨hnone, hrun⟩
    · rw [Binding.call_bind] at hpicks hrun
      rw [hrun]
      exact .callable hnative hpicks
    · rw [Binding.call_bind] at hnone
      rw [hrun]
      exact .noCallable hnative hnone
  · simp only [Backend.run, hscript]
    rcases Backend.runScript_cases service.host entry
        (Binding.bind call request.context request.fragments .eager) memory.scripts with
      ⟨hnone, hrun⟩ | ⟨source, hsource, hrun⟩
    · rw [hrun]
      exact .noSource hscript (Entry.source?_eq_none_iff.1 hnone)
    · obtain ⟨hsome, hblank⟩ := Entry.source?_eq_some_iff.1 hsource
      rcases hrun with ⟨words, t, hload, hrun⟩ | ⟨t, hload, hrun⟩
      · rw [hrun]
        exact .loadFails hscript hsome hblank (by rw [hload])
      · rw [hrun]
        exact .called hscript hsome hblank (by rw [hload])

/-- What a service asks its host is the same whether the host keeps a record or
not, and the record says just that. -/
theorem scripts_invoke_recording (service : Service ν σ) (request : Request)
    (registry : Registry) (memory : Memory ν σ) (asked : List Effect) :
    (service.recording.invoke request
        ⟨registry, memory.natives, memory.scripts, asked⟩).memory.scripts.2 =
      asked ++ (service.invoke request ⟨registry, memory⟩).effects.filter Effect.isScript := by
  rcases admission_cases service.settings registry request with
    ⟨e, hrefused⟩ | ⟨call, entry, hpermits⟩
  · have hrecorded : service.recording.invoke request
        ⟨registry, memory.natives, memory.scripts, asked⟩ =
          ⟨.error e, [], memory.natives, memory.scripts, asked⟩ := invoke_of_refused hrefused
    have hplain : service.invoke request ⟨registry, memory⟩ = ⟨.error e, [], memory⟩ :=
      invoke_of_refused hrefused
    simp [hrecorded, hplain]
  · have hrecorded := @invoke_of_permits _ _ service.recording request
      ⟨registry, memory.natives, memory.scripts, asked⟩ call entry hpermits
    have hplain := @invoke_of_permits _ _ service request ⟨registry, memory⟩ call entry hpermits
    rw [hrecorded, hplain]
    exact Backend.run_recording ..

/-- The service with other native functions behind the rows that are not kept. -/
def swap (service : Service ν σ) (keep : Nat → Bool)
    (run : Nat → List Json → ν → Except Native.Fault Json × ν) : Service ν σ :=
  ⟨service.natives.swap keep run, service.host, service.settings⟩

/-- A native function that a call does not list does not run: any other may
stand in its place. -/
theorem invoke_swap {service : Service ν σ} {request : Request} {s : State ν σ} {keep : Nat → Bool}
    (run : Nat → List Json → ν → Except Native.Fault Json × ν)
    (hkeep : ∀ name row args,
      .native name row args ∈ (service.invoke request s).effects → keep row = true) :
    (service.swap keep run).invoke request s = service.invoke request s := by
  rcases admission_cases service.settings s.registry request with
    ⟨e, hrefused⟩ | ⟨call, entry, hpermits⟩
  · have hswap : (service.swap keep run).invoke request s = ⟨.error e, [], s.memory⟩ :=
      invoke_of_refused hrefused
    rw [hswap, invoke_of_refused hrefused]
  · rw [invoke_of_permits hpermits] at hkeep ⊢
    have hswap := @invoke_of_permits _ _ (service.swap keep run) request s call entry hpermits
    suffices hran : Backend.run (service.natives.swap keep run) service.host entry call
        request.context service.settings.resolution request.fragments s.memory =
        Backend.run service.natives service.host entry call request.context
          service.settings.resolution request.fragments s.memory by
      rw [hswap]
      simp only [swap, hran]
    unfold Backend.run at hkeep ⊢
    split
    · rfl
    · rename_i hnative
      split at hkeep
      · contradiction
      · rw [Backend.runNative_swap run hkeep]

/-- No call does anything outside unless the registry that is installed when it
is made has an entry by which it may be made; then it does what that entry is
for, and nothing else.  The host is asked for just what the effects say, and no
native function runs but the one they name. -/
theorem effects_authorized (service : Service ν σ) (s : State ν σ) (before after : List Step)
    (request : Request) :
    ∃ result effects,
      (service.run s (before ++ .invoke request :: after)).1[before.length]? =
        some (.invoked result effects) ∧
      (∀ asked, (service.recording.invoke request ⟨installed s.registry before,
        (service.run s before).2.memory.natives, (service.run s before).2.memory.scripts,
        asked⟩).memory.scripts.2 = asked ++ effects.filter Effect.isScript) ∧
      (∀ keep run, (∀ name row args, .native name row args ∈ effects → keep row = true) →
        (service.swap keep run).invoke request (service.run s before).2 =
          service.invoke request (service.run s before).2) ∧
      (effects ≠ [] → ∃ call entry,
        Permits service.settings (installed s.registry before) request call entry) ∧
      ∀ call entry, Permits service.settings (installed s.registry before) request call entry →
        Footprint service request (service.run s before).2.memory.scripts call entry effects := by
  refine ⟨_, _, getElem?_run_invoke service s before after request, ?_⟩
  have hregistry : (service.run s before).2.registry = installed s.registry before :=
    registry_run service s before
  rw [← hregistry]
  refine ⟨scripts_invoke_recording service request _ _,
    fun keep run hkeep => invoke_swap run hkeep, ?_, ?_⟩
  · intro hne
    cases hadmission : admission service.settings (service.run s before).2.registry request with
    | error e => exact absurd (by rw [invoke_of_refused hadmission]) hne
    | ok admitted => exact ⟨admitted.1, admitted.2, admission_eq_ok_iff.1 hadmission⟩
  · intro call entry hpermits
    rw [invoke_of_permits hpermits]
    exact footprint_run hpermits.admits.execution _

end Service

end Switchboard
