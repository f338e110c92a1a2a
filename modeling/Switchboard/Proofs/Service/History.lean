import Switchboard.Proofs.Script.Isolation
import Switchboard.Proofs.Service.Admission
import Switchboard.Proofs.Service.Dispatch
import Switchboard.Proofs.Service.Runs

/-!
# What earlier calls leave behind

The host that a service embeds is shared by all entries and keeps the functions of every
script that it was given.  Earlier calls show in an answer exactly through these functions: a
script whose call looks up a function that it lacks gets the one that another script has left.
The call of a script that looks up no such function is answered as if it were the first one.

## Main definitions

* `Service.answer`: the answer to a call behind other steps.
* `Service.asked`: what the host was asked while steps were answered.
* `Service.StandsAlone`: a call looks up nothing that only other scripts define.

## Main statements

* `Service.scripts_run`: what is left behind is what the host was asked.
* `Service.answer_of_standsAlone`: nothing before a call shows in its answer.
-/

namespace Switchboard

open Script (Engine Host Semantics)

/-- What the host was asked by an effect. -/
def Effect.operation? : Effect → Option Host.Operation
  | .native .. => none
  | .load source => some (.load source)
  | .call name args => some (.call name args)

namespace Backend

variable {ν σ : Type}

/-- Of a run the host keeps what it was asked. -/
@[simp] theorem scripts_run (natives : Native.Table ν) (host : Host σ) (entry : Entry) (call : Call)
    (context : Json.Fields) (resolution : Resolution) (fragments : Option Fragments)
    (memory : Memory ν σ) :
    (run natives host entry call context resolution fragments memory).memory.scripts =
      host.replay ((run natives host entry call context resolution fragments
        memory).effects.filterMap Effect.operation?) memory.scripts := by
  unfold run
  split
  · rcases runScript_cases host entry (Binding.bind call context fragments .eager)
        memory.scripts with
      ⟨-, hrun⟩ | ⟨source, -, ⟨words, t, hload, hrun⟩ | ⟨t, hload, hrun⟩⟩
    all_goals simp [Effect.operation?, Host.perform, *]
  · rcases runNative_cases natives (Binding.bind call context fragments resolution)
        memory.natives with
      ⟨row, overload, -, hrun⟩ | ⟨-, hrun⟩ <;> rw [hrun] <;> rfl

variable {engine : Engine} {sem : Semantics engine} {config : engine.Config}

/-- A script runs alike behind every history of which its call looks nothing up. -/
theorem runScript_of_unborrowed (hkeeps : sem.KeepsDefinitions) (hevaluates : sem.EvaluatesCalls)
    {entry : Entry} {b : Binding} {history : List Host.Operation}
    (h : ∀ source, entry.source? = some source → ∀ naming callee,
      sem.LooksUpAlone config source b.call.method b.args naming callee →
        sem.Unborrowed config (Host.scripts history) source callee) :
    (runScript (.embedding engine config) entry b
        ((Host.embedding engine config).replay history engine.empty)).result =
        (runScript (.embedding engine config) entry b engine.empty).result ∧
      (runScript (.embedding engine config) entry b
          ((Host.embedding engine config).replay history engine.empty)).effects =
        (runScript (.embedding engine config) entry b engine.empty).effects := by
  cases hsource : entry.source? with
  | none => simp [runScript, hsource]
  | some source =>
    have hresult := Host.loadThenCall_replay_of_unborrowed hkeeps hevaluates (h source hsource)
    have hloads := Host.load_embedding_result config source
      ((Host.embedding engine config).replay history engine.empty) engine.empty
    rw [runScript_of_source hsource, runScript_of_source hsource]
    simp only [hresult, hloads, and_self]

end Backend

namespace Service

section

variable {ν σ : Type}

/-- The answer to a call that is made behind other steps. -/
def answer (service : Service ν σ) (s : State ν σ) (before : List Step) (request : Request) :
    Answer :=
  (service.step (service.run s before).2 (.invoke request)).1

/-- What the host was asked while steps were answered. -/
def asked (answers : List Answer) : List Host.Operation :=
  (answers.flatMap Answer.effects).filterMap Effect.operation?

@[simp] theorem asked_append (answers others : List Answer) :
    asked (answers ++ others) = asked answers ++ asked others := by
  simp [asked]

@[simp] theorem scripts_step (service : Service ν σ) (s : State ν σ) (next : Step) :
    (service.step s next).2.memory.scripts =
      service.host.replay (asked [(service.step s next).1]) s.memory.scripts := by
  cases next with
  | replace registry => rfl
  | invoke request =>
    simp only [step, asked, List.flatMap_singleton, Answer.effects]
    rcases admission_cases service.settings s.registry request with
      ⟨e, hrefused⟩ | ⟨call, entry, hpermits⟩
    · rw [invoke_of_refused hrefused]
      rfl
    · rw [invoke_of_permits hpermits]
      exact Backend.scripts_run ..

/-- All that steps leave with the host is what it was asked. -/
@[simp] theorem scripts_run (service : Service ν σ) (s : State ν σ) (steps : List Step) :
    (service.run s steps).2.memory.scripts =
      service.host.replay (asked (service.run s steps).1) s.memory.scripts := by
  induction steps generalizing s with
  | nil => rfl
  | cons first rest ih =>
    rw [run_cons, ih, scripts_step, ← Host.replay_append, ← asked_append, List.singleton_append]

end

variable {engine : Engine} (sem : Semantics engine)

/-- A call, made on a host that was just set up, looks up no function that the script of its
entry lacks and one of some other scripts defines. -/
def StandsAlone (settings : Settings) (request : Request) (call : Call) (entry : Entry)
    (others : List String) : Prop :=
  ∀ source, entry.source? = some source → ∀ naming callee,
    sem.LooksUpAlone (engine.withMaxOperations settings.maxOperations) source call.method
        (Binding.values request.context request.fragments call.keys) naming callee →
      sem.Unborrowed (engine.withMaxOperations settings.maxOperations) others source callee

/-- What a call looks up behind the load of its script is there as its script defines it. -/
def FindsOwn (settings : Settings) (program : engine.Program) (request : Request) (call : Call)
    (entry : Entry) : Prop :=
  let config := engine.withMaxOperations settings.maxOperations
  ∀ source script values, entry.source? = some source →
    engine.compile config source = .ok script →
    (Binding.values request.context request.fragments call.keys).mapM engine.toValue =
      .ok values →
    ∀ naming callee, sem.CallLooksUp config ((Host.embedding engine config).load source program).2
        call.method values naming callee →
      sem.definition? ((Host.embedding engine config).load source program).2 callee =
        sem.inScript? config source callee

variable {sem} {settings : Settings} {request : Request} {call : Call} {entry : Entry}

theorem StandsAlone.mono {fewer others : List String}
    (h : StandsAlone sem settings request call entry others) (hsub : fewer ⊆ others) :
    StandsAlone sem settings request call entry fewer :=
  fun source hsource naming callee hlooks => (h source hsource naming callee hlooks).mono hsub

section

variable {ν : Type} (hkeeps : sem.KeepsDefinitions)
include hkeeps

theorem findsOwn_of_standsAlone {history : List Host.Operation}
    (h : StandsAlone sem settings request call entry (Host.scripts history)) :
    FindsOwn sem settings ((Host.embedding engine
      (engine.withMaxOperations settings.maxOperations)).replay history engine.empty)
      request call entry :=
  fun source _ _ hsource hcompile hvalues _ _ hlooks =>
    Host.definition?_of_callLooksUp hkeeps hcompile hvalues (h source hsource) hlooks

variable (hevaluates : sem.EvaluatesCalls)
include hevaluates

/-- The call of a script that stands on its own is answered behind a history as on a host that
was just set up. -/
theorem step_of_standsAlone (natives : Native.Table ν) {registry : Registry}
    {history : List Host.Operation}
    (hpermits : Permits settings registry request call entry) (hscript : entry.execution = .script)
    (h : StandsAlone sem settings request call entry (Host.scripts history)) (memory memory' : ν) :
    ((embedding engine natives settings).step ⟨registry, memory,
        (embedding engine natives settings).host.replay history engine.empty⟩
        (.invoke request)).1 =
      ((embedding engine natives settings).step (State.fresh engine registry memory')
        (.invoke request)).1 := by
  obtain ⟨hresult, heffects⟩ := @Backend.runScript_of_unborrowed _ sem
    (engine.withMaxOperations settings.maxOperations) hkeeps hevaluates entry
    (Binding.bind call request.context request.fragments .eager) history h
  have hbehind := @invoke_of_permits _ _ (embedding engine natives settings) request
    ⟨registry, memory, (embedding engine natives settings).host.replay history engine.empty⟩
    call entry hpermits
  have hfresh := @invoke_of_permits _ _ (embedding engine natives settings) request
    (State.fresh engine registry memory') call entry hpermits
  simp only [Backend.run, hscript] at hbehind hfresh
  simp only [step, hbehind, hfresh]
  rw [Answer.invoked.injEq]
  exact ⟨congrArg (fun result => (result.mapError CallError.failed).bind
    (checkResult settings call.method entry)) hresult, heffects⟩

end

/-! ## A script that another one helps out -/

open Script.Plain (plain semantics lookUpsOf definitionsOf)

/-- A script with a function besides its own. -/
def withSecret : String :=
  "fn keep() \x7b 1 \x7d fn secret() \x7b 2 \x7d"

/-- A registry of this script and another one. -/
def keepAndPeek (peek : String) : Registry :=
  Dict.ofList [("keep", .script withSecret), ("peek", .script peek)]

theorem permits_peek (peek : String) :
    Permits .standard (keepAndPeek peek) (bare "peek()") ⟨"peek()", none, "peek", []⟩
      (.script peek) :=
  ⟨rfl, ⟨rfl, by simp [keepAndPeek, Dict.ofList]⟩,
    Gate.admits_script peek rfl (Int.le_refl 0)⟩

/-- A script with a `secret` of its own, about which it asks before it calls it. -/
def ownSecret : String :=
  "fn secret() \x7b 3 \x7d
   fn peek() \x7b if is_def_fn(\"secret\", 0) \x7b secret() \x7d else \x7b 0 \x7d \x7d"

theorem standsAlone_ownSecret :
    StandsAlone semantics .standard (bare "peek()") ⟨"peek()", none, "peek", []⟩
      (.script ownSecret) [withSecret] := by
  have hlooks : ∀ row ∈ lookUpsOf plain.new
      ((Host.embedding plain plain.new).load ownSecret plain.empty).2 "peek"
      ([].map Script.Plain.Value.ofJson),
      (definitionsOf ownSecret).any (·.callee == row.2) = true ∨
        ∀ other ∈ [withSecret], (definitionsOf other).any (·.callee == row.2) = false := by
    decide +kernel
  intro source hsource naming callee h
  obtain rfl : ownSecret = source :=
    Option.some.inj (Entry.source?_eq_some_iff.1 hsource).1
  have halone : semantics.LooksUpAlone plain.new ownSecret "peek" [] naming callee := h
  have hmem := Host.mem_lookUpsOf_of_alone halone
  exact Host.unborrowed_iff.2 (hlooks (naming, callee) hmem)

end Service

end Switchboard
