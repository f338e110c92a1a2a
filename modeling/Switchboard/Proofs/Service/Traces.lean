import Switchboard.Proofs.Service.Outcome
import Switchboard.Proofs.Service.Runs

/-!
# Calls that leave no trace

What a service goes on with from call to call is its registry, which only a
replacement changes, what its native functions remember, and what its host remembers,
which only the load of a script changes.  A call that comes to neither a load nor a
native function with a memory could as well not have been made: without it every other
step of a run is answered as before.

## Main definitions

* `Service.LeavesNoTrace`: a call that comes to no load, by how it ends or by the
  entry that it is made by.
* `Service.Loads`: a call that comes to a load.
* `staying`: what stays of items of which some are crossed out.
* `Service.CrossesOut`: only calls that leave no trace are crossed out of a run.

## Main statements

* `Service.scripts_invoke_cases`: a call comes to a load or changes nothing.
* `Service.step_of_leavesNoTrace`: a call without a trace changes nothing.
* `Service.run_staying`: a run with such calls crossed out.
-/

namespace Switchboard

/-- What stays of items, of each of which it is said whether it stays. -/
def staying {α : Type} (marked : List (α × Bool)) : List α :=
  (marked.filter Prod.snd).map Prod.fst

@[simp] theorem staying_cons_true {α : Type} (a : α) (rest : List (α × Bool)) :
    staying ((a, true) :: rest) = a :: staying rest := rfl

@[simp] theorem staying_cons_false {α : Type} (a : α) (rest : List (α × Bool)) :
    staying ((a, false) :: rest) = staying rest := rfl

/-- A function that remembers nothing of its calls. -/
def Native.Overload.Pure {ν : Type} (overload : Overload ν) : Prop :=
  ∀ args memory, (overload.run args memory).2 = memory

theorem Backend.memory_runNative_of_pure {ν : Type} {natives : Native.Table ν} {b : Binding}
    (hpure : ∀ overload ∈ natives.rows, overload.name = b.call.method → overload.Pure)
    (memory : ν) : (runNative natives b memory).memory = memory := by
  rcases runNative_cases natives b memory with ⟨row, overload, hpicks, hrun⟩ | ⟨-, hrun⟩
  · rw [hrun]
    exact hpure overload hpicks.mem hpicks.name_eq b.args memory
  · rw [hrun]

namespace Service

variable {ν σ : Type}

/-- A call comes to the load of a script: the entry by which it is made is that of
a script, the script is there, and the host is asked to load it. -/
structure Loads (service : Service ν σ) (s : State ν σ) (request : Request) (source : String) :
    Prop where
  permits : ∃ call entry, Permits service.settings s.registry request call entry ∧
    entry.execution = .script ∧ entry.source? = some source
  effect : .load source ∈ (service.invoke request s).effects

/-- A call comes to no load: its text is no call, it is denied, its entry is that
of a native function that is pure in all its overloads, or there is no script. -/
inductive LeavesNoTrace (service : Service ν σ) (s : State ν σ) : Step → Prop
  | malformed {request : Request} {e : Malformed}
      (h : (service.invoke request s).result = .error (.malformed e)) :
      LeavesNoTrace service s (.invoke request)
  | denied {request : Request} {e : Denial}
      (h : (service.invoke request s).result = .error (.denied e)) :
      LeavesNoTrace service s (.invoke request)
  | native {request : Request} {call : Call} {entry : Entry}
      (h : Permits service.settings s.registry request call entry)
      (hnative : entry.execution = .native)
      (hpure : ∀ overload ∈ service.natives.rows, overload.name = call.method → overload.Pure) :
      LeavesNoTrace service s (.invoke request)
  | sourceMissing {request : Request} {function signature : String}
      (h : (service.invoke request s).result =
        .error (.failed (.sourceMissing function signature))) :
      LeavesNoTrace service s (.invoke request)

section

variable {service : Service ν σ} {request : Request} {s : State ν σ}

/-! ## One call -/

/-- A call that fails before anything runs for it does nothing outside the service. -/
theorem effects_of_fails_early {e : CallError} (h : (service.invoke request s).result = .error e)
    (hearly : ∀ stage, Fails service request s stage e → stage.rank < Stage.running.rank) :
    (service.invoke request s).effects = [] := by
  rcases invoke_settles service request s with
    ⟨stage, e', hstops, herror, heffects⟩ | ⟨call, entry, v, -, -, -, hok⟩
  · obtain rfl := Except.error.inj (herror.symm.trans h)
    exact heffects (hearly stage hstops.1)
  · exact nomatch hok.symm.trans h

/-- A script that could not be loaded for want of a source never ran. -/
theorem Ends.ne_sourceMissing {call : Call} {entry : Entry} {function signature : String} :
    ¬ Ends service request s call entry (.error (.sourceMissing function signature)) := by
  intro hends
  have hclass := hends.failureClass_mem _ rfl
  simp [Failure.failureClass, Stage.classes] at hclass

/-- A call that does nothing outside the service changes nothing of what is remembered. -/
theorem memory_invoke_of_effects_nil (h : (service.invoke request s).effects = []) :
    (service.invoke request s).memory = s.memory := by
  rcases admission_cases service.settings s.registry request with
    ⟨e, hrefused⟩ | ⟨call, entry, hpermits⟩
  · rw [invoke_of_refused hrefused]
  · rw [invoke_of_permits hpermits] at h ⊢
    dsimp only at h ⊢
    unfold Backend.run at h ⊢
    split at h
    · rcases Backend.runScript_cases service.host entry
          (Binding.bind call request.context request.fragments .eager) s.memory.scripts with
        ⟨-, hrun⟩ | ⟨source, -, ⟨words, t, -, hrun⟩ | ⟨t, -, hrun⟩⟩
      · simp only [hrun]
      all_goals
        rw [hrun] at h
        exact absurd h (List.cons_ne_nil _ _)
    · rcases Backend.runNative_cases service.natives (Binding.bind call request.context
          request.fragments service.settings.resolution) s.memory.natives with
        ⟨row, overload, -, hrun⟩ | ⟨-, hrun⟩
      · rw [hrun] at h
        exact absurd h (List.cons_ne_nil _ _)
      · simp only [hrun]

/-- A call changes nothing of what the host remembers unless it comes to the load of
a script. -/
theorem scripts_invoke_cases (service : Service ν σ) (request : Request) (s : State ν σ) :
    (service.invoke request s).memory.scripts = s.memory.scripts ∨
      ∃ source, Loads service s request source := by
  rcases admission_cases service.settings s.registry request with
    ⟨e, hrefused⟩ | ⟨call, entry, hpermits⟩
  · exact Or.inl (by rw [invoke_of_refused hrefused])
  · have hinvoke := invoke_of_permits hpermits
    rcases hpermits.admits.execution with hnative | ⟨hscript, -⟩
    · simp only [Backend.run, hnative] at hinvoke
      exact Or.inl (by rw [hinvoke])
    · simp only [Backend.run, hscript] at hinvoke
      rcases Backend.runScript_cases service.host entry
          (Binding.bind call request.context request.fragments .eager) s.memory.scripts with
        ⟨-, hrun⟩ | ⟨source, hsource, ⟨words, t, -, hrun⟩ | ⟨t, -, hrun⟩⟩
      · exact Or.inl (by rw [hinvoke, hrun])
      -- Whether the script loads or not, the host was asked for it.
      all_goals
        rw [hrun] at hinvoke
        exact Or.inr ⟨source, ⟨call, entry, hpermits, hscript, hsource⟩, by simp [hinvoke]⟩

/-- A call that leaves no trace leaves the service in the state it was in. -/
theorem step_of_leavesNoTrace {next : Step} (h : LeavesNoTrace service s next) :
    (service.step s next).2 = s := by
  cases h with
  | malformed herror | denied herror =>
    refine congrArg (State.mk s.registry) (memory_invoke_of_effects_nil
      (effects_of_fails_early herror fun stage hfails => ?_))
    cases hfails <;> decide
  | @native request call entry hpermits hnative hpure =>
    have hmemory : (service.invoke request s).memory = s.memory := by
      rw [invoke_of_permits hpermits]
      simp only [Backend.run, hnative]
      rw [Backend.memory_runNative_of_pure (by rwa [Binding.call_bind])]
    exact congrArg (State.mk s.registry) hmemory
  | sourceMissing herror =>
    refine congrArg (State.mk s.registry) (memory_invoke_of_effects_nil
      (effects_of_fails_early herror fun stage hfails => ?_))
    cases hfails with
    | sourceMissing _ _ _ => decide
    | running _ hends => exact absurd hends Ends.ne_sourceMissing

/-- What the host remembers changes in a step only if the step is a call that comes
to the load of a script. -/
theorem loads_of_scripts_step_ne {next : Step}
    (h : (service.step s next).2.memory.scripts ≠ s.memory.scripts) :
    ∃ request source, next = .invoke request ∧ Loads service s request source := by
  cases next with
  | replace registry => exact absurd rfl h
  | invoke request =>
    rcases scripts_invoke_cases service request s with hsame | ⟨source, hloads⟩
    · exact absurd hsame h
    · exact ⟨request, source, rfl, hloads⟩

end

/-! ## Whole runs -/

/-- Behind steps the registry is the one from before them, if none of them replaces
it, or that of the last replacement. -/
theorem installed_cases (registry : Registry) (steps : List Step) :
    installed registry steps = registry ∧ (∀ new, .replace new ∉ steps) ∨
      ∃ before after, steps = before ++ .replace (installed registry steps) :: after ∧
        ∀ new, .replace new ∉ after := by
  induction steps generalizing registry with
  | nil => exact Or.inl ⟨rfl, fun _ => List.not_mem_nil⟩
  | cons first rest ih =>
    cases first with
    | invoke request =>
      rcases ih registry with ⟨hsame, hnone⟩ | ⟨before, after, hrest, hnone⟩
      · exact Or.inl ⟨hsame, fun new => by simpa using hnone new⟩
      · exact Or.inr ⟨.invoke request :: before, after, congrArg (_ :: ·) hrest, hnone⟩
    | replace new =>
      rcases ih new with ⟨hsame, hnone⟩ | ⟨before, after, hrest, hnone⟩
      · exact Or.inr ⟨[], rest, congrArg (.replace · :: rest) hsame.symm, hnone⟩
      · exact Or.inr ⟨.replace new :: before, after, congrArg (_ :: ·) hrest, hnone⟩

theorem run_take_succ (service : Service ν σ) (s : State ν σ) {steps : List Step} {i : Nat}
    {next : Step} (h : steps[i]? = some next) :
    (service.run s (steps.take (i + 1))).2 =
      (service.step (service.run s (steps.take i)).2 next).2 := by
  rw [List.take_add_one, h, run_append]
  rfl

/-- Crossed out are only calls that leave no trace where the whole run makes them. -/
def CrossesOut (service : Service ν σ) (s : State ν σ) (marked : List (Step × Bool)) : Prop :=
  ∀ i next, marked[i]? = some (next, false) →
    LeavesNoTrace service (service.run s ((marked.take i).map Prod.fst)).2 next

theorem CrossesOut.tail {service : Service ν σ} {s : State ν σ} {first : Step} {keep : Bool}
    {rest : List (Step × Bool)} (h : CrossesOut service s ((first, keep) :: rest)) :
    CrossesOut service (service.step s first).2 rest :=
  fun i next hnext => h (i + 1) next hnext

theorem CrossesOut.take {service : Service ν σ} {s : State ν σ} {marked : List (Step × Bool)}
    (h : CrossesOut service s marked) (n : Nat) : CrossesOut service s (marked.take n) := by
  intro i next hnext
  rw [List.getElem?_take] at hnext
  split at hnext
  · rename_i hlt
    rw [List.take_take, Nat.min_eq_left (Nat.le_of_lt hlt)]
    exact h i next hnext
  · exact nomatch hnext

/-- Without calls that leave no trace a run answers what stays as it did with them,
and ends in the same state. -/
theorem run_of_crossesOut (service : Service ν σ) (s : State ν σ) (marked : List (Step × Bool))
    (h : CrossesOut service s marked) :
    service.run s (staying marked) =
      (staying ((service.run s (marked.map Prod.fst)).1.zip (marked.map Prod.snd)),
        (service.run s (marked.map Prod.fst)).2) := by
  induction marked generalizing s with
  | nil => rfl
  | cons first rest ih =>
    obtain ⟨next, keep⟩ := first
    have hrest := ih (service.step s next).2 h.tail
    cases keep with
    | true => simp [hrest]
    | false =>
      have hsame : (service.step s next).2 = s := step_of_leavesNoTrace (h 0 next rfl)
      simpa [hsame] using hrest

/-- Calls of a run that are malformed, denied, made by the entry of a pure native function
or in want of a script can be crossed out: what stays is answered as in the whole
run, and behind any number of steps the service is in the same state as without
those that are crossed out, with the same registry and the same host.  The registry
is always the first one or that of the last replacement, and what the host
remembers changes only in a call that comes to the load of a script. -/
theorem run_staying (service : Service ν σ) (s : State ν σ) (marked : List (Step × Bool))
    (hgone : CrossesOut service s marked) :
    (service.run s (staying marked)).1 =
        staying ((service.run s (marked.map Prod.fst)).1.zip (marked.map Prod.snd)) ∧
      ∀ i : Nat,
        (service.run s (staying (marked.take i))).2 =
          (service.run s ((marked.take i).map Prod.fst)).2 ∧
        ((service.run s ((marked.take i).map Prod.fst)).2.registry = s.registry ∧
            (∀ new, .replace new ∉ (marked.take i).map Prod.fst) ∨
          ∃ before after, (marked.take i).map Prod.fst = before ++
              .replace (service.run s ((marked.take i).map Prod.fst)).2.registry :: after ∧
            ∀ new, .replace new ∉ after) ∧
        ((service.run s ((marked.take (i + 1)).map Prod.fst)).2.memory.scripts ≠
            (service.run s ((marked.take i).map Prod.fst)).2.memory.scripts →
          ∃ request source, (marked.map Prod.fst)[i]? = some (.invoke request) ∧
            Loads service (service.run s ((marked.take i).map Prod.fst)).2 request source) := by
  have hanswers := run_of_crossesOut service s marked hgone
  refine ⟨congrArg Prod.fst hanswers, fun i => ⟨?_, ?_, ?_⟩⟩
  · rw [run_of_crossesOut service s (marked.take i) (hgone.take i)]
  · rw [registry_run]
    exact installed_cases s.registry _
  · intro hchanged
    rw [List.map_take, List.map_take] at hchanged
    rw [List.map_take]
    cases hnext : (marked.map Prod.fst)[i]? with
    | none =>
      rw [List.take_add_one, hnext, Option.toList_none, List.append_nil] at hchanged
      exact absurd rfl hchanged
    | some next =>
      rw [run_take_succ service s hnext] at hchanged
      obtain ⟨request, source, rfl, hloads⟩ := loads_of_scripts_step_ne hchanged
      exact ⟨request, source, rfl, hloads⟩

/-! ## A host that counts -/

/-- A service without native functions, whose host counts the scripts that it loads
and answers each call with their number. -/
def tallying : Service Unit Nat :=
  ⟨⟨[]⟩, ⟨fun _ n => (.ok (), n + 1), fun _ _ n => (.ok (.int n), n)⟩, .standard⟩

/-- The registry of a native function, of a script and of one that was left blank. -/
def tallies : Registry :=
  Dict.ofList [("blank", .script ""), ("native", .native),
    ("tally", .script "fn tally() \x7b 1 \x7d")]

/-- Two calls of the script, and between them one call of each kind that leaves no
trace, all of those crossed out. -/
def tallyTwice : List (Step × Bool) :=
  [(.invoke (bare "tally()"), true), (.invoke (bare "tally("), false),
    (.invoke (bare "nobody()"), false), (.invoke (bare "native()"), false),
    (.invoke (bare "blank()"), false), (.invoke (bare "tally()"), true)]

theorem permits_tallies_native : Permits .standard tallies (bare "native()")
    ⟨"native()", none, "native", []⟩ .native := by
  have hlisted : tallies.get? "native" = some .native := by
    simp [tallies, Dict.ofList]
  exact ⟨rfl, ⟨rfl, hlisted⟩, Gate.admits_native (Int.le_refl 0)⟩

theorem crossesOut_tallyTwice : CrossesOut tallying ⟨tallies, (), 0⟩ tallyTwice := by
  rintro (_ | _ | _ | _ | _ | _ | i) next hnext
  all_goals cases hnext
  · exact .malformed rfl
  · exact .denied rfl
  · exact .native permits_tallies_native rfl fun _ hmem => absurd hmem List.not_mem_nil
  · exact .sourceMissing rfl

/-- The second call of the script is answered with the second load, whether the calls
between are made or not. -/
theorem run_staying_tallyTwice :
    CrossesOut tallying ⟨tallies, (), 0⟩ tallyTwice ∧
      (tallying.run ⟨tallies, (), 0⟩ (staying tallyTwice)).1 =
        [.invoked (.ok (.int 1)) [.load "fn tally() \x7b 1 \x7d", .call "tally" []],
          .invoked (.ok (.int 2)) [.load "fn tally() \x7b 1 \x7d", .call "tally" []]] :=
  ⟨crossesOut_tallyTwice,
    (run_staying tallying ⟨tallies, (), 0⟩ tallyTwice crossesOut_tallyTwice).1⟩

end Service

end Switchboard
