import Switchboard.Proofs.Service.Accepted
import Switchboard.Proofs.Service.Returns

/-!
# Services that check results

Checking results comes last in a call and changes nothing but the answer: whether
a service checks or not, its calls do the same, and it goes on from the same state.
A check never makes a value of a failure or another value of a value; it only turns
values down, and just those that do not go with what their entry declares.

## Main definitions

* `Service.checking`: a service with the check switched on or off.
* `Service.Answer.Filters`: what a check makes of an answer.

## Main statements

* `Service.step_checking`: one step with and without the check.
* `Service.invoke_checking_eq_ok_iff`: the values that the check lets through.
* `Service.run_checking`: the same of whole runs.
-/

namespace Switchboard.Service

variable {ν σ : Type}

/-- The service with the check of results switched on or off. -/
def checking (service : Service ν σ) (strict : Bool) : Service ν σ :=
  ⟨service.natives, service.host, { service.settings with strictReturns := strict }⟩

/-- What a check makes of an answer: the answer itself, or in place of a value
the fault of that value, with the same effects. -/
inductive Answer.Filters : Answer → Answer → Prop
  | same (answer : Answer) : Filters answer answer
  | rejected (v : Json) (fault : ReturnFault) (effects : List Effect) :
      Filters (.invoked (.ok v) effects) (.invoked (.error (.returned fault)) effects)

theorem Answer.Filters.effects_eq {lenient strict : Answer} (h : Answer.Filters lenient strict) :
    strict.effects = lenient.effects := by
  cases h <;> rfl

section

variable {service : Service ν σ} {request : Request} {s : State ν σ}

/-- The check plays no part in who may call what. -/
@[simp] theorem admission_checking (strict : Bool) (registry : Registry) :
    admission (service.checking strict).settings registry request =
      admission service.settings registry request := rfl

/-- An admitted call runs alike with and without the check. -/
theorem invoke_checking_of_permits (strict : Bool) {call : Call} {entry : Entry}
    (h : Permits service.settings s.registry request call entry) :
    (service.checking strict).invoke request s =
      let ran := Backend.run service.natives service.host entry call request.context
        service.settings.resolution request.fragments s.memory
      ⟨(ran.result.mapError .failed).bind
        (checkResult (service.checking strict).settings call.method entry),
        ran.effects, ran.memory⟩ :=
  invoke_of_permits (admission_eq_ok_iff.1
    ((admission_checking strict s.registry).trans (admission_eq_ok_iff.2 h)))

/-- A refused call is refused with and without the check. -/
theorem invoke_checking_of_refused (strict : Bool) {e : CallError}
    (h : admission service.settings s.registry request = .error e) :
    (service.checking strict).invoke request s = ⟨.error e, [], s.memory⟩ :=
  invoke_of_refused ((admission_checking strict s.registry).trans h)

/-- A check leaves the effects and the state of a call as they are, and of the
answer all but a value that it turns down. -/
theorem invoke_checking (service : Service ν σ) (request : Request) (s : State ν σ) :
    ((service.checking true).invoke request s).memory =
        ((service.checking false).invoke request s).memory ∧
      Answer.Filters
        (.invoked ((service.checking false).invoke request s).result
          ((service.checking false).invoke request s).effects)
        (.invoked ((service.checking true).invoke request s).result
          ((service.checking true).invoke request s).effects) := by
  rcases admission_cases service.settings s.registry request with
    ⟨e, hrefused⟩ | ⟨call, entry, hpermits⟩
  · rw [invoke_checking_of_refused true hrefused, invoke_checking_of_refused false hrefused]
    exact ⟨rfl, .same _⟩
  · rw [invoke_checking_of_permits true hpermits, invoke_checking_of_permits false hpermits]
    refine ⟨rfl, ?_⟩
    dsimp only
    cases (Backend.run service.natives service.host entry call request.context
        service.settings.resolution request.fragments s.memory).result with
    | error failure => exact .same _
    | ok v =>
      rcases checkResult_cases (service.checking true).settings call.method entry v with
        ⟨-, hchecked⟩ | ⟨-, fault, -, hchecked⟩
      · simp only [mapError_ok, Except.bind, hchecked]
        exact .same _
      · simp only [mapError_ok, Except.bind, hchecked]
        exact .rejected v fault _

/-- A value passes a check that is switched on if it goes with the declaration. -/
theorem checkResult_eq_ok_iff {settings : Settings} (hstrict : settings.strictReturns = true)
    {function : String} {entry : Entry} {v w : Json} :
    checkResult settings function entry v = .ok w ↔
      v = w ∧ ∃ d, Declaration.Names entry.returns d ∧ d.Allows v := by
  rw [← @checkReturned_eq_ok_iff function]
  rcases checkResult_cases settings function entry v with
    ⟨hpasses, hchecked⟩ | ⟨-, fault, hfault, hchecked⟩
  · simp [hchecked, hpasses hstrict]
  · simp [hchecked, hfault]

/-- A check lets a value through exactly if it goes with what the entry by which
the call is made declares. -/
theorem invoke_checking_eq_ok_iff {v : Json} :
    ((service.checking true).invoke request s).result = .ok v ↔
      ((service.checking false).invoke request s).result = .ok v ∧
        ∃ call entry d, Permits service.settings s.registry request call entry ∧
          Declaration.Names entry.returns d ∧ d.Allows v := by
  rcases admission_cases service.settings s.registry request with
    ⟨e, hrefused⟩ | ⟨call, entry, hpermits⟩
  · simp [invoke_checking_of_refused _ hrefused]
  · rw [invoke_checking_of_permits true hpermits, invoke_checking_of_permits false hpermits]
    dsimp only
    cases (Backend.run service.natives service.host entry call request.context
        service.settings.resolution request.fragments s.memory).result with
    | error failure => exact iff_of_false nofun fun h => nomatch h.1
    | ok w =>
      have hlenient : checkResult (service.checking false).settings call.method entry w = .ok w :=
        rfl
      simp only [mapError_ok, Except.bind, hlenient, Except.ok.injEq]
      rw [checkResult_eq_ok_iff rfl]
      constructor
      · rintro ⟨rfl, d, hnames, hallows⟩
        exact ⟨rfl, call, entry, d, hpermits, hnames, hallows⟩
      · rintro ⟨rfl, call', entry', d, hpermits', hnames, hallows⟩
        obtain ⟨rfl, rfl⟩ := hpermits.asks.unique hpermits'.asks
        exact ⟨rfl, d, hnames, hallows⟩

/-- One step with and without the check. -/
theorem step_checking (service : Service ν σ) (s : State ν σ) (next : Step) :
    ((service.checking true).step s next).2 = ((service.checking false).step s next).2 ∧
      Answer.Filters ((service.checking false).step s next).1
        ((service.checking true).step s next).1 := by
  cases next with
  | invoke request =>
    obtain ⟨hmemory, hfilters⟩ := invoke_checking service request s
    exact ⟨congrArg (State.mk s.registry) hmemory, hfilters⟩
  | replace registry => exact ⟨rfl, .same _⟩

/-- Two runs, one with and one without the check, stay in the same state. -/
theorem filters_run_checking (service : Service ν σ) (s : State ν σ) (steps : List Step) :
    List.Forall₂ Answer.Filters ((service.checking false).run s steps).1
        ((service.checking true).run s steps).1 ∧
      ((service.checking true).run s steps).2 = ((service.checking false).run s steps).2 := by
  induction steps generalizing s with
  | nil => exact ⟨.nil, rfl⟩
  | cons first rest ih =>
    obtain ⟨hstate, hfilters⟩ := step_checking service s first
    obtain ⟨hanswers, hend⟩ := ih ((service.checking false).step s first).2
    rw [run_cons, run_cons, hstate]
    exact ⟨.cons hfilters hanswers, hend⟩

/-- A run with the check goes through the same states and has the same effects as
the run without it.  It fails where that run fails, and in the same way; where that
run has a value it has that value or a fault of it, and it has the value exactly if
it is one that the entry declares, by which the call is made. -/
theorem run_checking (service : Service ν σ) (s : State ν σ) (steps : List Step) :
    List.Forall₂ Answer.Filters ((service.checking false).run s steps).1
        ((service.checking true).run s steps).1 ∧
      (∀ i : Nat, ((service.checking true).run s (steps.take i)).2 =
        ((service.checking false).run s (steps.take i)).2) ∧
      ∀ (i : Nat) (request : Request) (v : Json) (effects : List Effect),
        steps[i]? = some (.invoke request) →
        (((service.checking true).run s steps).1[i]? = some (.invoked (.ok v) effects) ↔
          ((service.checking false).run s steps).1[i]? = some (.invoked (.ok v) effects) ∧
            ∃ call entry d,
              Permits service.settings (installed s.registry (steps.take i)) request call entry ∧
                Declaration.Names entry.returns d ∧ d.Allows v) := by
  refine ⟨(filters_run_checking service s steps).1,
    fun i => (filters_run_checking service s (steps.take i)).2, ?_⟩
  intro i request v effects hnext
  rw [getElem?_run, getElem?_run, hnext, (filters_run_checking service s (steps.take i)).2,
    ← registry_run (service.checking false) s (steps.take i)]
  generalize ((service.checking false).run s (steps.take i)).2 = t
  have heffects := (invoke_checking service request t).2.effects_eq
  simp only [Answer.effects] at heffects
  simp only [step, Option.map_some, Option.some.injEq, Answer.invoked.injEq, heffects,
    invoke_checking_eq_ok_iff]
  exact and_right_comm

end

/-- Declared to return an integer, the script of `countTwice` passes the check. -/
theorem run_checking_countTwice :
    ((counting.checking true).run ⟨countAs "long", (), ()⟩ countTwice).1[0]? =
        some (.invoked (.ok (.int 1)) [.load "fn count() \x7b 1 \x7d", .call "count" []]) ∧
      ∃ call entry d,
        Permits counting.settings (installed (countAs "long") (countTwice.take 0))
          ⟨"count()", [], .anonymous, none⟩ call entry ∧
        Declaration.Names entry.returns d ∧ d.Allows (.int 1) := by
  have hpasses := (run_checking counting ⟨countAs "long", (), ()⟩ countTwice).2.2 0
    ⟨"count()", [], .anonymous, none⟩ (.int 1)
    [.load "fn count() \x7b 1 \x7d", .call "count" []] rfl
  have hanswer : ((counting.checking true).run ⟨countAs "long", (), ()⟩ countTwice).1[0]? =
      some (.invoked (.ok (.int 1)) [.load "fn count() \x7b 1 \x7d", .call "count" []]) := rfl
  exact ⟨hanswer, (hpasses.1 hanswer).2⟩

end Switchboard.Service
