import Mathlib.Data.List.Forall2
import Switchboard.Proofs.Script.Budgets
import Switchboard.Proofs.Service.History

/-!
# Services with a budget

How many operations a call of a script may take decides over nothing but whether the call is
cut short.  A service with a higher budget, or without one, goes through the same states and
does the same, and answers the same wherever a script has a value within the lesser budget.
A budget of zero is no budget, so of two budgets the lesser must not be zero.

## Main definitions

* `Service.budgeted`: the service that embeds an engine, with a budget.
* `Service.Answer.Outlasts`: what becomes of an answer with more to spend.

## Main statements

* `Service.run_budgeted`: a run with more to spend beside the run within a budget.
* `Service.value_of_budget`: a value within a budget is the value with more to spend.
* `Service.not_forall_value_of_budget`: it is not if the budget is zero.
-/

namespace Switchboard

open Script (Engine Host Semantics)

variable {engine : Engine} {sem : Semantics engine} {budget : Nat} {more : Option Nat}

/-- The host that embeds an engine, with the operations that one call may take. -/
abbrev Script.Host.budgeted (engine : Engine) (maxOperations : Option Nat) :
    Host engine.Program :=
  .embedding engine (engine.withMaxOperations maxOperations)

section

variable (hkeeps : sem.KeepsDefinitions) (hevaluates : sem.EvaluatesCalls)
  (hlimits : sem.LimitsOperations) (hbudget : budget ≠ 0) (hmore : ∀ n, more = some n → budget ≤ n)
include hkeeps hevaluates hlimits hbudget hmore

/-- With more to spend a script does the same and leaves the same behind, and its result is the
same unless it fails within the budget. -/
theorem Backend.runScript_richer (entry : Entry) (b : Binding) {program : engine.Program}
    (hprogram : sem.OnlyFunctions program) :
    let less := runScript (Host.budgeted engine (some budget)) entry b program
    let rich := runScript (Host.budgeted engine more) entry b program
    rich.effects = less.effects ∧ rich.memory = less.memory ∧
      (rich.result = less.result ∨
        ∃ words, less.result = .error (.script b.call.method words)) := by
  have hload := Host.load_withMaxOperations hlimits more (some budget)
  cases hsource : entry.source? with
  | none => simp [runScript, hsource]
  | some source =>
    have hmemory : ∀ maxOperations,
        ((Host.budgeted engine maxOperations).loadThenCall source b.call.method b.args program).2 =
          ((Host.budgeted engine maxOperations).load source program).2 := fun maxOperations =>
      Host.perform_embedding _ program (.loadThenCall source b.call.method b.args)
    simp only [runScript_of_source hsource, hmemory, hload, true_and]
    cases hless : ((Host.budgeted engine (some budget)).loadThenCall source b.call.method b.args
        program).1 with
    | error words => exact Or.inr ⟨words, rfl⟩
    | ok v =>
      rw [Host.loadThenCall_of_covers hevaluates
        (Semantics.covers_withMaxOperations hlimits hbudget hmore) hkeeps hload hprogram hless]
      exact Or.inl rfl

theorem Backend.run_richer {ν : Type} (natives : Native.Table ν) (entry : Entry) (call : Call)
    (context : Json.Fields) (resolution : Resolution) (fragments : Option Fragments)
    {memory : Memory ν engine.Program} (hprogram : sem.OnlyFunctions memory.scripts) :
    let less := run natives (Host.budgeted engine (some budget)) entry call context resolution
      fragments memory
    let rich := run natives (Host.budgeted engine more) entry call context resolution fragments
      memory
    rich.effects = less.effects ∧ rich.memory = less.memory ∧
      (rich.result = less.result ∨
        ∃ words, less.result = .error (.script call.method words)) := by
  unfold run
  split
  · obtain ⟨heffects, hmemory, hresult⟩ := runScript_richer hkeeps hevaluates hlimits hbudget hmore
      entry (Binding.bind call context fragments .eager) hprogram
    rw [Binding.call_bind] at hresult
    exact ⟨heffects, congrArg (Memory.mk memory.natives) hmemory, hresult⟩
  · exact ⟨rfl, rfl, Or.inl rfl⟩

end

namespace Service

variable {ν : Type}

/-- The service that embeds an engine, with the operations that one call of a script may take. -/
def budgeted (engine : Engine) (natives : Native.Table ν) (settings : Settings)
    (maxOperations : Option Nat) : Service ν engine.Program :=
  embedding engine natives { settings with maxOperations := maxOperations }

/-- An answer with more to spend beside the answer within a budget: the same answer, or one
with the same effects where the script fails within the budget. -/
inductive Answer.Outlasts : Answer → Answer → Prop
  | same (answer : Answer) : Outlasts answer answer
  | failed (result : Except CallError Json) (function words : String) (effects : List Effect) :
      Outlasts (.invoked result effects)
        (.invoked (.error (.failed (.script function words))) effects)

/-- A value was not cut short. -/
theorem Answer.Outlasts.eq_of_value {answer : Answer} {v : Json} {effects : List Effect}
    (h : Answer.Outlasts answer (.invoked (.ok v) effects)) :
    answer = .invoked (.ok v) effects := by
  cases h
  rfl

/-- The budget plays no part in who may call what. -/
theorem admission_budgeted (natives : Native.Table ν) (settings : Settings)
    (maxOperations maxOperations' : Option Nat) (registry : Registry) (request : Request) :
    admission (budgeted engine natives settings maxOperations).settings registry request =
      admission (budgeted engine natives settings maxOperations').settings registry request := rfl

section

variable (hkeeps : sem.KeepsDefinitions)
include hkeeps

/-- No statement outside a function ever comes to what the host remembers. -/
theorem onlyFunctions_run (natives : Native.Table ν) (settings : Settings)
    (maxOperations : Option Nat) {s : State ν engine.Program}
    (hs : sem.OnlyFunctions s.memory.scripts) (steps : List Step) :
    sem.OnlyFunctions
      ((budgeted engine natives settings maxOperations).run s steps).2.memory.scripts := by
  rw [scripts_run]
  exact Host.onlyFunctions_replay hkeeps _ hs

variable (hevaluates : sem.EvaluatesCalls) (hlimits : sem.LimitsOperations) (hbudget : budget ≠ 0)
  (hmore : ∀ n, more = some n → budget ≤ n)
include hevaluates hlimits hbudget hmore

/-- One call with more to spend leaves the same behind and outlasts the call within the
budget. -/
theorem invoke_budgeted (natives : Native.Table ν) (settings : Settings) (request : Request)
    {s : State ν engine.Program} (hs : sem.OnlyFunctions s.memory.scripts) :
    ((budgeted engine natives settings more).invoke request s).memory =
        ((budgeted engine natives settings (some budget)).invoke request s).memory ∧
      Answer.Outlasts
        (.invoked ((budgeted engine natives settings more).invoke request s).result
          ((budgeted engine natives settings more).invoke request s).effects)
        (.invoked ((budgeted engine natives settings (some budget)).invoke request s).result
          ((budgeted engine natives settings (some budget)).invoke request s).effects) := by
  have hadmission :=
    @admission_budgeted engine _ natives settings more (some budget) s.registry request
  rcases admission_cases (budgeted engine natives settings (some budget)).settings s.registry
      request with
    ⟨e, hrefused⟩ | ⟨call, entry, hpermits⟩
  · rw [invoke_of_refused (hadmission.trans hrefused), invoke_of_refused hrefused]
    exact ⟨rfl, .same _⟩
  · have hpermits' := admission_eq_ok_iff.1 (hadmission.trans (admission_eq_ok_iff.2 hpermits))
    rw [invoke_of_permits hpermits', invoke_of_permits hpermits]
    obtain ⟨heffects, hmemory, hresult⟩ := Backend.run_richer hkeeps hevaluates hlimits hbudget
      hmore natives entry call request.context settings.resolution request.fragments hs
    refine ⟨hmemory, ?_⟩
    dsimp only [budgeted, embedding]
    rw [heffects]
    rcases hresult with hsame | ⟨words, hfails⟩
    · rw [hsame]
      exact .same _
    · rw [hfails]
      exact .failed _ _ _ _

/-- One step with more to spend beside the step within the budget. -/
theorem step_budgeted (natives : Native.Table ν) (settings : Settings)
    {s : State ν engine.Program} (hs : sem.OnlyFunctions s.memory.scripts) (next : Step) :
    ((budgeted engine natives settings more).step s next).2 =
        ((budgeted engine natives settings (some budget)).step s next).2 ∧
      Answer.Outlasts ((budgeted engine natives settings more).step s next).1
        ((budgeted engine natives settings (some budget)).step s next).1 := by
  cases next with
  | invoke request =>
    obtain ⟨hmemory, houtlasts⟩ := invoke_budgeted hkeeps hevaluates hlimits hbudget hmore natives
      settings request hs
    exact ⟨congrArg (State.mk s.registry) hmemory, houtlasts⟩
  | replace registry => exact ⟨rfl, .same _⟩

/-- Two runs, one within the budget and one with more to spend, stay in the same state. -/
theorem run_budgeted (natives : Native.Table ν) (settings : Settings)
    {s : State ν engine.Program} (hs : sem.OnlyFunctions s.memory.scripts) (steps : List Step) :
    List.Forall₂ Answer.Outlasts ((budgeted engine natives settings more).run s steps).1
        ((budgeted engine natives settings (some budget)).run s steps).1 ∧
      ((budgeted engine natives settings more).run s steps).2 =
        ((budgeted engine natives settings (some budget)).run s steps).2 := by
  induction steps generalizing s with
  | nil => exact ⟨.nil, rfl⟩
  | cons first rest ih =>
    obtain ⟨hstate, houtlasts⟩ :=
      step_budgeted hkeeps hevaluates hlimits hbudget hmore natives settings hs first
    obtain ⟨hanswers, hend⟩ := ih (onlyFunctions_run hkeeps natives settings _ hs [first])
    rw [run_cons, run_cons, hstate]
    exact ⟨.cons houtlasts hanswers, hend⟩

/-- What a call yields within a budget other than zero it yields within every higher budget
and without one: on a host, whatever was loaded there before, and at every step of a service,
whatever steps came before. -/
theorem value_of_budget :
    (∀ (history : List Host.Operation) (source name : String) (args : List Json) (v : Json),
      let less := Host.budgeted engine (some budget)
      let rich := Host.budgeted engine more
      (less.loadThenCall source name args (less.replay history engine.empty)).1 = .ok v →
        (rich.loadThenCall source name args (rich.replay history engine.empty)).1 = .ok v) ∧
    ∀ (natives : Native.Table ν) (settings : Settings) (registry : Registry) (memory : ν)
      (steps : List Step) (i : Nat) (v : Json) (effects : List Effect),
      ((budgeted engine natives settings (some budget)).run
          (State.fresh engine registry memory) steps).1[i]? = some (.invoked (.ok v) effects) →
        ((budgeted engine natives settings more).run
          (State.fresh engine registry memory) steps).1[i]? =
            some (.invoked (.ok v) effects) := by
  constructor
  · intro history source name args v less rich hvalue
    have hload : rich.load = less.load := Host.load_withMaxOperations hlimits more (some budget)
    rw [Host.replay_congr hload]
    exact Host.loadThenCall_of_covers hevaluates
      (Semantics.covers_withMaxOperations hlimits hbudget hmore) hkeeps hload
      (Host.onlyFunctions_replay hkeeps _ hkeeps.onlyFunctions_empty) hvalue
  · intro natives settings registry memory steps i v effects hvalue
    have hs : sem.OnlyFunctions (State.fresh engine registry memory).memory.scripts :=
      hkeeps.onlyFunctions_empty
    have hstate := (run_budgeted hkeeps hevaluates hlimits hbudget hmore natives settings hs
      (steps.take i)).2
    rw [getElem?_run, Option.map_eq_some_iff] at hvalue
    obtain ⟨next, hnext, hanswer⟩ := hvalue
    have houtlasts := (step_budgeted hkeeps hevaluates hlimits hbudget hmore natives settings
      (onlyFunctions_run hkeeps natives settings (some budget) hs (steps.take i)) next).2
    rw [hanswer] at houtlasts
    rw [getElem?_run, hnext, hstate, Option.map_some, houtlasts.eq_of_value]

end

/-! ## Counting up -/

open Script.Plain (plain)

def countUp : String := "fn few(n) \x7b let i = 0; while i < n \x7b i += 1; \x7d i \x7d"

/-- A service that was just set up for this script. -/
def upcoming : State Unit plain.Program :=
  State.fresh plain (Dict.ofList [("few", .script countUp)]) ()

def countToThree : Step :=
  .invoke ⟨"few(top)", [("top", .int 3)], .anonymous, none⟩

/-- A budget of a hundred operations pays for counting up to three, and so does every higher
one. -/
theorem value_of_budget_few :
    (100 ≠ 0 ∧ ∀ n, some 101 = some n → 100 ≤ n) ∧
      (∃ v, v.int? = some 3 ∧
        ((Host.budgeted plain (some 100)).loadThenCall countUp "few" [.int 3] plain.empty).1 =
          .ok v ∧
        ((Host.budgeted plain (some 101)).loadThenCall countUp "few" [.int 3] plain.empty).1 =
          .ok v ∧
        ((Host.budgeted plain none).loadThenCall countUp "few" [.int 3] plain.empty).1 = .ok v) ∧
      ∃ v effects,
        ((budgeted plain ⟨[]⟩ .standard (some 100)).run upcoming [countToThree]).1[0]? =
            some (.invoked (.ok v) effects) ∧
          ((budgeted plain ⟨[]⟩ .standard (some 101)).run upcoming [countToThree]).1[0]? =
            some (.invoked (.ok v) effects) := by
  have hhigher : ∀ n, some 101 = some n → 100 ≤ n := by rintro n ⟨⟩; decide
  have hthree : ((Host.budgeted plain (some 100)).loadThenCall countUp "few" [.int 3]
      plain.empty).1.map Json.int? = .ok (some 3) := by decide +kernel
  have hanswer : (((budgeted plain ⟨[]⟩ .standard (some 100)).run upcoming
      [countToThree]).1[0]?).any (fun | .invoked (.ok _) _ => true | _ => false) = true := by
    decide +kernel
  have hmore := @value_of_budget plain Script.Plain.semantics 100 (some 101) Unit
    Script.Plain.keepsDefinitions Script.Plain.evaluatesCalls Script.Plain.limitsOperations
    (by decide) hhigher
  have hfree := @value_of_budget plain Script.Plain.semantics 100 none Unit
    Script.Plain.keepsDefinitions Script.Plain.evaluatesCalls Script.Plain.limitsOperations
    (by decide) nofun
  refine ⟨⟨by decide, hhigher⟩, ?_, ?_⟩
  · obtain ⟨v, hvalue, hint⟩ := map_eq_ok_iff.1 hthree
    exact ⟨v, hint, hvalue, hmore.1 [] _ _ _ v hvalue, hfree.1 [] _ _ _ v hvalue⟩
  · obtain ⟨answer, hget, hinvoked⟩ := (Option.any_eq_true _ _).1 hanswer
    cases answer with
    | invoked result effects =>
      cases result with
      | error e => cases hinvoked
      | ok v => exact ⟨v, effects, hget, hmore.2 _ _ _ _ _ 0 v effects hget⟩
    | replaced old => cases hinvoked

/-- A budget of zero pays for counting up to twenty, and a budget of ten does not. -/
theorem not_forall_value_of_budget :
    ¬ ∀ (budget higher : Nat) (source name : String) (args : List Json) (v : Json),
      budget ≤ higher →
      ((Host.budgeted plain (some budget)).loadThenCall source name args plain.empty).1 = .ok v →
      ((Host.budgeted plain (some higher)).loadThenCall source name args plain.empty).1 =
        .ok v := by
  intro h
  have htwenty : ((Host.budgeted plain (some 0)).loadThenCall countUp "few" [.int 20]
      plain.empty).1.map Json.int? = .ok (some 20) := by decide +kernel
  have hspent : ((Host.budgeted plain (some 10)).loadThenCall countUp "few" [.int 20]
      plain.empty).1.map Json.int? = .error "Too many operations" := by decide +kernel
  obtain ⟨v, hvalue, -⟩ := map_eq_ok_iff.1 htwenty
  have hmore := h 0 10 countUp "few" [.int 20] v (by decide) hvalue
  rw [hmore] at hspent
  cases hspent

end Service

end Switchboard
