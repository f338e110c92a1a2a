import Switchboard.Proofs.Service.Admission
import Switchboard.Proofs.Service.Dispatch

/-!
# The stages of a call

A call passes through ten stages, and each can stop it in its own way.  When a
stage fails is said here of the request, the registry, the native functions and
the host alone, whatever stage comes before it, so several stages may fail on
one request.

## Main definitions

* `Service.Stage`: the stages, in order by `Stage.rank`.
* `Service.Fails`: a stage fails with an error.
* `Service.Ends`: how what runs for a call ends.
* `Service.Reaches`: no earlier stage fails.

## Main statements

* `Service.Fails.unique`: a stage fails in one way only.
-/

namespace Switchboard.Service

/-- What can stop a call. -/
inductive Stage where
  /-- Calls are not taken. -/
  | remote
  /-- The text is no call. -/
  | expression
  /-- The registry has no entry of the name. -/
  | entry
  /-- The entry's way of running is unknown or switched off. -/
  | execution
  | version
  | tag
  | method
  /-- There is nothing that could run. -/
  | target
  /-- What runs fails. -/
  | running
  /-- The result does not go with the declaration. -/
  | returned
deriving DecidableEq

namespace Stage

/-- The place of a stage in their order. -/
def rank : Stage → Nat
  | remote => 0
  | expression => 1
  | entry => 2
  | execution => 3
  | version => 4
  | tag => 5
  | method => 6
  | target => 7
  | running => 8
  | returned => 9

def classes : Stage → List String
  | remote => ["remote_disabled"]
  | expression => ["malformed_expression"]
  | entry => ["unknown_function"]
  | execution => ["unsupported_kind", "script_disabled"]
  | version => ["version_too_low"]
  | tag => ["tag_mismatch"]
  | method => ["method_not_allowed"]
  | target => ["script_function_missing", "no_such_callable"]
  | running => ["script_execution_failed", "argument_type_mismatch", "target_invocation_fault"]
  | returned => ["return_type_mismatch", "unresolvable_declared_type"]

theorem rank_injective {stage stage' : Stage} (h : stage.rank = stage'.rank) : stage = stage' := by
  cases stage <;> cases stage' <;> first | rfl | simp [rank] at h

theorem rank_lt (stage : Stage) : stage.rank < 10 := by
  cases stage <;> decide

end Stage

variable {ν σ : Type}

/-- The arguments as the service hands them to native functions. -/
def nativeBinding (service : Service ν σ) (request : Request) (call : Call) : Binding :=
  Binding.bind call request.context request.fragments service.settings.resolution

/-- The arguments as scripts get them. -/
def scriptBinding (request : Request) (call : Call) : Binding :=
  Binding.bind call request.context request.fragments .eager

/-- What runs for a call by an entry ends with a value or a failure. -/
inductive Ends (service : Service ν σ) (request : Request) (s : State ν σ) (call : Call)
    (entry : Entry) : Except Failure Json → Prop
  /-- The first function of the name that takes the arguments returns a value. -/
  | returns {row : Nat} {overload : Native.Overload ν} {v : Json}
      (hnative : entry.execution = .native)
      (hpicks : service.natives.Picks call.method (nativeBinding service request call).kinds
        row overload)
      (hrun : (overload.run (nativeBinding service request call).args s.memory.natives).1 = .ok v) :
      Ends service request s call entry (.ok v)
  /-- That function fails without a word. -/
  | refused {row : Nat} {overload : Native.Overload ν} {fault : Native.Fault}
      (hnative : entry.execution = .native)
      (hpicks : service.natives.Picks call.method (nativeBinding service request call).kinds
        row overload)
      (hrun : (overload.run (nativeBinding service request call).args s.memory.natives).1 =
        .error fault)
      (hblank : Text.isAllBlank fault.message = true) :
      Ends service request s call entry (.error (.argumentsRefused call.text
        (nativeBinding service request call).signature
        [Binding.typedSignature call.method overload.params]))
  /-- That function fails, and its words are handed on as they are. -/
  | faulted {row : Nat} {overload : Native.Overload ν} {fault : Native.Fault}
      (hnative : entry.execution = .native)
      (hpicks : service.natives.Picks call.method (nativeBinding service request call).kinds
        row overload)
      (hrun : (overload.run (nativeBinding service request call).args s.memory.natives).1 =
        .error fault)
      (hwords : Text.isAllBlank fault.message = false) :
      Ends service request s call entry (.error (.target fault.message))
  /-- The script of the entry does not load. -/
  | loadFails {source words : String} {t : σ} (hscript : entry.execution = .script)
      (hsource : entry.source? = some source)
      (hload : service.host.load source s.memory.scripts = (.error words, t)) :
      Ends service request s call entry (.error (.script call.method words))
  /-- The script loads, and what its function yields counts. -/
  | called {source : String} {t : σ} (hscript : entry.execution = .script)
      (hsource : entry.source? = some source)
      (hload : service.host.load source s.memory.scripts = (.ok (), t)) :
      Ends service request s call entry
        ((service.host.call call.method (scriptBinding request call).args t).1.mapError
          (.script call.method))

/-- A stage fails with an error, whatever stages before it do. -/
inductive Fails (service : Service ν σ) (request : Request) (s : State ν σ) :
    Stage → CallError → Prop
  | remote (hoff : service.settings.remoteEnabled = false) :
      Fails service request s .remote (.denied (.remoteDisabled request.text))
  | expression {e : Malformed} (hread : Call.read .remote request.text = .error e) :
      Fails service request s .expression (.malformed e)
  | entry {call : Call} (hread : Call.read .remote request.text = .ok call)
      (hnone : s.registry.get? call.method = none) :
      Fails service request s .entry (.denied (.unknownFunction call.method))
  | unsupported {call : Call} {entry : Entry} {kind : String}
      (hasks : Asks s.registry request call entry) (hkind : entry.execution = .unsupported kind) :
      Fails service request s .execution (.denied (.unsupportedKind call.method kind))
  | scriptDisabled {call : Call} {entry : Entry} (hasks : Asks s.registry request call entry)
      (hscript : entry.execution = .script) (hoff : service.settings.scriptsEnabled = false) :
      Fails service request s .execution (.denied (.scriptDisabled call.method))
  | version {call : Call} {entry : Entry} (hasks : Asks s.registry request call entry)
      (hlow : request.caller.version < entry.minVersion) :
      Fails service request s .version
        (.denied (.versionTooLow call.method request.caller.version entry.minVersion))
  | tag {call : Call} {entry : Entry} {required : String}
      (hasks : Asks s.registry request call entry) (hrequired : entry.requiredTag = some required)
      (hother : request.caller.tag ≠ some required) :
      Fails service request s .tag
        (.denied (.tagMismatch call.method request.caller.tag required))
  | method {call : Call} {entry : Entry} {set : TextSet}
      (hasks : Asks s.registry request call entry) (hset : entry.allowedMethods = some set)
      (hsome : set.toList ≠ [])
      (hother : ∀ listed ∈ set.toList,
        Verb.upperCase listed ≠ Verb.upperCase request.caller.method.name) :
      Fails service request s .method
        (.denied (.methodNotAllowed call.method request.caller.method set.toList))
  /-- The entry has no script, or a blank one. -/
  | sourceMissing {call : Call} {entry : Entry} (hasks : Asks s.registry request call entry)
      (hscript : entry.execution = .script)
      (hnone : ∀ source, entry.source = some source → Text.isAllBlank source = true) :
      Fails service request s .target (.failed (.sourceMissing call.method
        (Binding.typedSignature call.method (scriptBinding request call).kinds)))
  /-- No function of the name takes the kinds of the arguments. -/
  | noSuchCallable {call : Call} {entry : Entry} (hasks : Asks s.registry request call entry)
      (hnative : entry.execution = .native)
      (hnone : ∀ overload ∈ service.natives.rows, overload.name = call.method →
        ¬ overload.Takes (nativeBinding service request call).kinds) :
      Fails service request s .target (.failed (.noSuchCallable call.text
        (nativeBinding service request call).signature
        ((service.natives.ofArity call.method
          (nativeBinding service request call).args.length).map fun overload =>
            Binding.typedSignature call.method overload.params)))
  | running {call : Call} {entry : Entry} {failure : Failure}
      (hasks : Asks s.registry request call entry)
      (hends : Ends service request s call entry (.error failure)) :
      Fails service request s .running (.failed failure)
  /-- Results are checked, and the result does not go with the declaration. -/
  | returned {call : Call} {entry : Entry} {v : Json} {e : ReturnFault}
      (hasks : Asks s.registry request call entry) (hstrict : service.settings.strictReturns = true)
      (hends : Ends service request s call entry (.ok v))
      (hcheck : checkReturned call.method v entry.returns = .error e) :
      Fails service request s .returned (.returned e)

/-- No stage before the given place fails. -/
def Reaches (service : Service ν σ) (request : Request) (s : State ν σ) (place : Nat) : Prop :=
  ∀ stage : Stage, stage.rank < place → ∀ e, ¬ Fails service request s stage e

section

variable {service : Service ν σ} {request : Request} {s : State ν σ}

theorem Reaches.zero : Reaches service request s 0 :=
  fun _ hlt => absurd hlt (Nat.not_lt_zero _)

/-- The next place is reached behind a stage that does not fail. -/
theorem Reaches.succ (stage : Stage) (h : Reaches service request s stage.rank)
    (hpass : ∀ e, ¬ Fails service request s stage e) :
    Reaches service request s (stage.rank + 1) := by
  intro other hlt e hfails
  rcases Nat.lt_or_eq_of_le (Nat.le_of_lt_succ hlt) with hlt | heq
  · exact h other hlt e hfails
  · exact hpass e (Stage.rank_injective heq ▸ hfails)

/-- How a call ends is how its backend runs it. -/
theorem Ends.result_run {call : Call} {entry : Entry} {r : Except Failure Json}
    (h : Ends service request s call entry r) :
    (Backend.run service.natives service.host entry call request.context
      service.settings.resolution request.fragments s.memory).result = r := by
  have hran : ∀ {row overload}, entry.execution = .native →
      service.natives.Picks call.method (nativeBinding service request call).kinds row overload →
      (Backend.run service.natives service.host entry call request.context
        service.settings.resolution request.fragments s.memory).result =
        Backend.settle (nativeBinding service request call) overload s.memory.natives := by
    intro row overload hnative hpicks
    have hbound : service.natives.Picks (nativeBinding service request call).call.method
        (nativeBinding service request call).kinds row overload := by
      rwa [nativeBinding, Binding.call_bind]
    simp only [Backend.run, hnative]
    exact congrArg Run.result (Backend.runNative_of_picks hbound s.memory.natives)
  cases h with
  | returns hnative hpicks hrun => rw [hran hnative hpicks, Backend.settle, hrun]
  | refused hnative hpicks hrun hblank =>
    rw [hran hnative hpicks, Backend.settle, hrun]
    simp [hblank, nativeBinding]
  | faulted hnative hpicks hrun hwords =>
    rw [hran hnative hpicks, Backend.settle, hrun]
    simp [hwords]
  | loadFails hscript hsource hload =>
    simp [Backend.run, hscript, Backend.runScript, hsource, hload]
  | called hscript hsource hload =>
    simp [Backend.run, hscript, Backend.runScript, hsource, hload, scriptBinding]

theorem Ends.ends_run {call : Call} {entry : Entry} {r : Except Failure Json}
    (h : Ends service request s call entry r) :
    Ends service request s call entry
      (Backend.run service.natives service.host entry call request.context
        service.settings.resolution request.fragments s.memory).result := by
  rwa [h.result_run]

/-- A stage fails in one way only. -/
theorem Fails.unique {stage : Stage} {e e' : CallError} (h : Fails service request s stage e)
    (h' : Fails service request s stage e') : e = e' := by
  cases h with
  | remote _ => cases h'; rfl
  | expression hread =>
    cases h' with
    | expression hread' => rw [Except.error.inj (hread.symm.trans hread')]
  | entry hread _ =>
    cases h' with
    | entry hread' _ => rw [Except.ok.inj (hread.symm.trans hread')]
  | unsupported hasks hkind =>
    cases h' with
    | unsupported hasks' hkind' =>
      obtain ⟨rfl, rfl⟩ := hasks.unique hasks'
      rw [Execution.unsupported.inj (hkind.symm.trans hkind')]
    | scriptDisabled hasks' hscript _ =>
      obtain ⟨-, rfl⟩ := hasks.unique hasks'
      simp [hkind] at hscript
  | scriptDisabled hasks hscript _ =>
    cases h' with
    | unsupported hasks' hkind =>
      obtain ⟨-, rfl⟩ := hasks.unique hasks'
      simp [hscript] at hkind
    | scriptDisabled hasks' _ _ => rw [(hasks.unique hasks').1]
  | version hasks _ =>
    cases h' with
    | version hasks' _ => obtain ⟨rfl, rfl⟩ := hasks.unique hasks'; rfl
  | tag hasks hrequired _ =>
    cases h' with
    | tag hasks' hrequired' _ =>
      obtain ⟨rfl, rfl⟩ := hasks.unique hasks'
      rw [Option.some.inj (hrequired.symm.trans hrequired')]
  | method hasks hset _ _ =>
    cases h' with
    | method hasks' hset' _ _ =>
      obtain ⟨rfl, rfl⟩ := hasks.unique hasks'
      rw [Option.some.inj (hset.symm.trans hset')]
  | sourceMissing hasks hscript _ =>
    cases h' with
    | sourceMissing hasks' _ _ => rw [(hasks.unique hasks').1]
    | noSuchCallable hasks' hnative _ =>
      obtain ⟨-, rfl⟩ := hasks.unique hasks'
      simp [hscript] at hnative
  | noSuchCallable hasks hnative _ =>
    cases h' with
    | sourceMissing hasks' hscript _ =>
      obtain ⟨-, rfl⟩ := hasks.unique hasks'
      simp [hnative] at hscript
    | noSuchCallable hasks' _ _ => rw [(hasks.unique hasks').1]
  | running hasks hends =>
    cases h' with
    | running hasks' hends' =>
      obtain ⟨rfl, rfl⟩ := hasks.unique hasks'
      rw [Except.error.inj (hends.result_run.symm.trans hends'.result_run)]
  | returned hasks _ hends hcheck =>
    cases h' with
    | returned hasks' _ hends' hcheck' =>
      obtain ⟨rfl, rfl⟩ := hasks.unique hasks'
      obtain rfl := Except.ok.inj (hends.result_run.symm.trans hends'.result_run)
      rw [Except.error.inj (hcheck.symm.trans hcheck')]

end

end Switchboard.Service
