import Switchboard.Proofs.Registry.Violations
import Switchboard.Proofs.Service.Outcome
import Switchboard.Proofs.Service.Returns
import Switchboard.Proofs.Service.Runs

/-!
# What a check of the registry rules out

Some calls fail for the registry alone, whoever makes them and whatever with: the
entry runs in no way that is known, has no script to run, or is declared to return
a type that is not known.  No entry of an accepted registry is like that, so no
call fails in this way as long as every registry that is installed was accepted.

## Main definitions

* `Entry.Sound`: what acceptance makes sure of in an entry.
* `Service.registryFaults`: the failure classes of a call that the registry is to
  blame for.

## Main statements

* `Registry.sound_of_isAccepted`: the entries of an accepted registry are sound.
* `Service.invoke_of_accepted`: one call by an accepted registry.
* `Service.run_of_accepted`: any run in which only accepted registries are installed.
-/

namespace Switchboard

/-! ## Sound entries -/

/-- An entry that runs in a known way, has a script if it runs as one, and is
declared to return something known or nothing. -/
structure Entry.Sound (entry : Entry) : Prop where
  known : ∀ kind, entry.execution ≠ .unsupported kind
  source : entry.execution = .script → entry.source? ≠ none
  returns : Declaration.ofName? entry.returns ≠ none

/-- The entries of an accepted registry are sound. -/
theorem Registry.sound_of_isAccepted {registry : Registry} {name : String} {entry : Entry}
    (h : registry.isAccepted = true) (hget : registry.get? name = some entry) : entry.Sound := by
  have hnone := isAccepted_iff.1 h name entry hget
  constructor
  · intro kind hkind
    exact hnone (.unsupportedKind kind) hkind
  · intro hscript hsource
    exact hnone .sourceMissing ⟨hscript, hsource⟩
  · intro hreturns
    exact hnone (.unresolvableReturnType _) ⟨hreturns, rfl⟩

/-- The declaration is only to blame for a result if it names no known type. -/
theorem ofName?_eq_none_of_checkReturned {function blamed name : String} {v : Json}
    {declared : Option String}
    (h : checkReturned function v declared = .error (.unresolvable blamed name)) :
    Declaration.ofName? declared = none := by
  rcases checkReturned_cases function v declared with
    ⟨-, hok⟩ | ⟨hnone, -, -⟩ | ⟨-, actual, type, hmismatch⟩
  · exact nomatch hok.symm.trans h
  · exact hnone
  · exact nomatch hmismatch.symm.trans h

namespace Service

variable {ν σ : Type} {service : Service ν σ} {request : Request} {s : State ν σ}

/-! ## Calls -/

/-- The failure classes of a call that the registry is to blame for. -/
def registryFaults : List String :=
  ["unsupported_kind", "script_function_missing", "unresolvable_declared_type"]

/-- No stage fails through the fault of an entry that is sound. -/
theorem Fails.failureClass_of_sound {stage : Stage} {e : CallError}
    (h : Fails service request s stage e)
    (hsound : ∀ call entry, Asks s.registry request call entry → entry.Sound) :
    e.failureClass ∉ registryFaults := by
  cases h with
  | unsupported hasks hkind => exact absurd hkind ((hsound _ _ hasks).known _)
  | sourceMissing hasks hscript hnone =>
    exact absurd (Entry.source?_eq_none_iff.2 hnone) ((hsound _ _ hasks).source hscript)
  | @returned _ _ _ fault hasks _ _ hcheck =>
    cases fault with
    | mismatch =>
      simp [CallError.failureClass, ReturnFault.failureClass, registryFaults]
    | unresolvable =>
      exact absurd (ofName?_eq_none_of_checkReturned hcheck) (hsound _ _ hasks).returns
  | running _ hends =>
    have hdisjoint : ∀ c ∈ Stage.running.classes, c ∉ registryFaults := by decide
    exact hdisjoint _ (hends.failureClass_mem _ rfl)
  | _ => simp [CallError.failureClass, Denial.failureClass, Failure.failureClass,
      Malformed.failureClass, registryFaults]

/-- The registry is not to blame for a call by an accepted one. -/
theorem invoke_of_accepted (haccepted : s.registry.isAccepted = true) {e : CallError}
    (h : (service.invoke request s).result = .error e) : e.failureClass ∉ registryFaults := by
  rcases invoke_settles service request s with
    ⟨stage, e', hstops, herror, -⟩ | ⟨call, entry, v, -, -, -, hok⟩
  · obtain rfl := Except.error.inj (herror.symm.trans h)
    exact hstops.1.failureClass_of_sound fun call entry hasks =>
      Registry.sound_of_isAccepted haccepted hasks.listed
  · cases hok.symm.trans h

/-! ## Runs -/

/-- A step leaves an accepted registry installed, if it installs no other. -/
theorem isAccepted_step (haccepted : s.registry.isAccepted = true) {next : Step}
    (hnext : ∀ registry, next = .replace registry → registry.isAccepted = true) :
    (service.step s next).2.registry.isAccepted = true := by
  cases next with
  | invoke request => exact haccepted
  | replace registry => exact hnext registry rfl

/-- The registry is not to blame for any call of a run in which every registry
that is installed was accepted. -/
theorem run_of_accepted (service : Service ν σ) (s : State ν σ) (steps : List Step)
    (hfirst : s.registry.isAccepted = true)
    (hsteps : ∀ registry, Step.replace registry ∈ steps → registry.isAccepted = true)
    (e : CallError) (effects : List Effect)
    (h : .invoked (.error e) effects ∈ (service.run s steps).1) :
    e.failureClass ∉ registryFaults := by
  induction steps generalizing s with
  | nil => cases h
  | cons next rest ih =>
    rw [run_cons, List.mem_cons] at h
    rcases h with hanswer | hrest
    · cases next with
      | invoke request => exact invoke_of_accepted hfirst (Answer.invoked.inj hanswer.symm).1
      | replace registry => cases hanswer
    · refine ih _ (isAccepted_step hfirst ?_) (fun registry hmem => ?_) hrest
      · rintro registry rfl
        exact hsteps registry List.mem_cons_self
      · exact hsteps registry (List.mem_cons_of_mem _ hmem)

/-- A service that checks results and knows one script, which yields a number. -/
def counting : Service Unit Unit :=
  ⟨⟨[]⟩, ⟨fun _ s => (.ok (), s), fun _ _ s => (.ok (.int 1), s)⟩,
    { Settings.standard with strictReturns := true }⟩

/-- The registry of that script with a type that it is declared to return. -/
def countAs (type : String) : Registry :=
  Dict.ofList [("count", { Entry.script "fn count() \x7b 1 \x7d" with returns := some type })]

theorem isAccepted_countAs : ∀ type ∈ ["long", "String"], (countAs type).isAccepted = true := by
  simp only [Registry.isAccepted_iff_entries]
  decide +kernel

/-- Two calls of the script, with a registry that declares another type between them. -/
def countTwice : List Step :=
  [.invoke ⟨"count()", [], .anonymous, none⟩, .replace (countAs "String"),
    .invoke ⟨"count()", [], .anonymous, none⟩]

/-- A wrong declaration of a known type is accepted, and the call by it fails for
what was returned. -/
theorem run_of_accepted_countTwice :
    (countAs "long").isAccepted = true ∧
    (∀ registry, Step.replace registry ∈ countTwice → registry.isAccepted = true) ∧
    .invoked (.error (.returned (.mismatch "count" "Number" "String")))
      [.load "fn count() \x7b 1 \x7d", .call "count" []] ∈
        (counting.run ⟨countAs "long", (), ()⟩ countTwice).1 ∧
    (CallError.returned (.mismatch "count" "Number" "String")).failureClass ∉ registryFaults := by
  have hfirst : (countAs "long").isAccepted = true := isAccepted_countAs _ (.head _)
  have hsteps : ∀ registry, Step.replace registry ∈ countTwice → registry.isAccepted = true := by
    intro registry hmem
    obtain rfl : registry = countAs "String" := by simpa [countTwice] using hmem
    exact isAccepted_countAs _ (.tail _ (.head _))
  have hanswer : .invoked (.error (.returned (.mismatch "count" "Number" "String")))
      [.load "fn count() \x7b 1 \x7d", .call "count" []] ∈
        (counting.run ⟨countAs "long", (), ()⟩ countTwice).1 := .tail _ (.tail _ (.head _))
  exact ⟨hfirst, hsteps, hanswer, run_of_accepted counting _ countTwice hfirst hsteps _ _ hanswer⟩

end Service

end Switchboard
