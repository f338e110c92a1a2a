import Switchboard.Proofs.Native.Selection
import Switchboard.Service.Backend

/-!
# What the backends do

Each backend has a few ways to run a call, told apart by what the table of
native functions and the host of scripts do.

## Main statements

* `Backend.runNative_cases`: no overload takes the arguments, or one runs.
* `Backend.runNative_of_picks`, `Backend.runNative_of_not_takes`: which of both it is.
* `Backend.runNative_eq_noSuchCallable_iff`: when no overload takes them.
* `Backend.runNative_swap`: no function runs but the one that is listed.
* `Backend.runScript_cases`: there is no script, it does not load, or its
  function is called.
-/

namespace Switchboard

/-- A bound call is the call that was bound. -/
@[simp] theorem Binding.call_bind (call : Call) (context : Json.Fields)
    (fragments : Option Fragments) (resolution : Resolution) :
    (Binding.bind call context fragments resolution).call = call := by
  cases resolution <;> rfl

@[simp] theorem Entry.source?_eq_some_iff {entry : Entry} {source : String} :
    entry.source? = some source ↔
      entry.source = some source ∧ Text.isAllBlank source = false := by
  simp [Entry.source?, Option.filter_eq_some_iff]

@[simp] theorem Entry.source?_eq_none_iff {entry : Entry} :
    entry.source? = none ↔
      ∀ source, entry.source = some source → Text.isAllBlank source = true := by
  simp [Entry.source?, Option.filter_eq_none_iff]

namespace Backend

variable {ν σ : Type}

/-- How an overload that ran ends the run: a failure without a word counts
against the arguments, and any other is handed on as it is. -/
def settle (b : Binding) (overload : Native.Overload ν) (memory : ν) : Except Failure Json :=
  match (overload.run b.args memory).1 with
  | .ok v => .ok v
  | .error fault =>
    if Text.isAllBlank fault.message then
      .error (.argumentsRefused b.call.text b.signature
        [Binding.typedSignature b.call.method overload.params])
    else .error (.target fault.message)

@[simp] theorem settle_eq_ok_iff {b : Binding} {overload : Native.Overload ν} {memory : ν}
    {v : Json} :
    settle b overload memory = .ok v ↔ (overload.run b.args memory).1 = .ok v := by
  unfold settle
  cases (overload.run b.args memory).1 with
  | ok w => simp
  | error fault => by_cases h : Text.isAllBlank fault.message = true <;> simp [h]

/-- What a function says of its failure is handed on. -/
theorem settle_of_error {b : Binding} {overload : Native.Overload ν} {memory : ν}
    {fault : Native.Fault} (h : (overload.run b.args memory).1 = .error fault)
    (hwords : Text.isAllBlank fault.message = false) :
    settle b overload memory = .error (.target fault.message) := by
  simp only [settle, h, hwords, Bool.false_eq_true, if_false]

/-- The overload that a look-up finds runs. -/
theorem runNative_of_found {natives : Native.Table ν} {b : Binding} {row : Nat}
    {overload : Native.Overload ν}
    (h : natives.lookUp b.call.method b.args = .found row overload) (memory : ν) :
    runNative natives b memory = ⟨settle b overload memory, [.native overload.name row b.args],
      (overload.run b.args memory).2⟩ := by
  simp only [runNative, settle, h]
  rcases overload.run b.args memory with ⟨fault | v, after⟩
  · by_cases h : Text.isAllBlank fault.message = true <;> simp [h]
  · rfl

/-- Either the first overload that takes the arguments runs, or none takes them
and those that take as many are listed. -/
theorem runNative_cases (natives : Native.Table ν) (b : Binding) (memory : ν) :
    (∃ row overload, natives.Picks b.call.method b.kinds row overload ∧
        runNative natives b memory = ⟨settle b overload memory,
          [.native b.call.method row b.args], (overload.run b.args memory).2⟩) ∨
      (∀ overload ∈ natives.rows, overload.name = b.call.method → ¬ overload.Takes b.kinds) ∧
        runNative natives b memory = ⟨.error (.noSuchCallable b.call.text b.signature
          ((natives.ofArity b.call.method b.args.length).map fun overload =>
            Binding.typedSignature b.call.method overload.params)), [], memory⟩ := by
  rcases natives.lookUp_cases b.call.method b.args with
    ⟨row, overload, hfound, hpicks⟩ | ⟨hnone, ⟨hno, hempty⟩ | ⟨hother, -⟩⟩
  · refine Or.inl ⟨row, overload, hpicks, ?_⟩
    rw [runNative_of_found hfound, hpicks.name_eq]
  · exact Or.inr ⟨hnone, by simp [runNative, hno, hempty]⟩
  · exact Or.inr ⟨hnone, by simp only [runNative, hother]⟩

/-- The overload that is picked runs. -/
theorem runNative_of_picks {natives : Native.Table ν} {b : Binding} {row : Nat}
    {overload : Native.Overload ν} (h : natives.Picks b.call.method b.kinds row overload)
    (memory : ν) :
    runNative natives b memory = ⟨settle b overload memory, [.native b.call.method row b.args],
      (overload.run b.args memory).2⟩ := by
  rcases runNative_cases natives b memory with ⟨row', overload', hpicks, hrun⟩ | ⟨hnone, -⟩
  · obtain ⟨rfl, rfl⟩ := h.unique hpicks
    exact hrun
  · exact absurd h.takes (hnone overload h.mem h.name_eq)

/-- Where no overload takes the arguments none runs. -/
theorem runNative_of_not_takes {natives : Native.Table ν} {b : Binding}
    (h : ∀ overload ∈ natives.rows, overload.name = b.call.method → ¬ overload.Takes b.kinds)
    (memory : ν) :
    runNative natives b memory = ⟨.error (.noSuchCallable b.call.text b.signature
      ((natives.ofArity b.call.method b.args.length).map fun overload =>
        Binding.typedSignature b.call.method overload.params)), [], memory⟩ := by
  rcases runNative_cases natives b memory with ⟨row, overload, hpicks, -⟩ | ⟨-, hrun⟩
  · exact absurd hpicks.takes (h overload hpicks.mem hpicks.name_eq)
  · exact hrun

theorem settle_ne_noSuchCallable (b : Binding) (overload : Native.Overload ν) (memory : ν)
    (text signature : String) (accepted : List String) :
    settle b overload memory ≠ .error (.noSuchCallable text signature accepted) := by
  unfold settle
  cases (overload.run b.args memory).1 with
  | ok v => nofun
  | error fault => by_cases h : Text.isAllBlank fault.message = true <;> simp [h]

/-- There is no such function exactly if none of the overloads of its name and number takes
the arguments, and then these overloads are listed. -/
theorem runNative_eq_noSuchCallable_iff {natives : Native.Table ν} {b : Binding} {memory : ν}
    {text signature : String} {accepted : List String} :
    (runNative natives b memory).result = .error (.noSuchCallable text signature accepted) ↔
      (∀ overload ∈ natives.ofArity b.call.method b.args.length, ¬ overload.Takes b.kinds) ∧
        text = b.call.text ∧ signature = b.signature ∧
        accepted = (natives.ofArity b.call.method b.args.length).map fun overload =>
          Binding.typedSignature b.call.method overload.params := by
  have hlength : b.kinds.length = b.args.length := List.length_map _
  rcases runNative_cases natives b memory with ⟨row, overload, hpicks, hrun⟩ | ⟨hnone, hrun⟩
  · rw [hrun]
    refine iff_of_false (settle_ne_noSuchCallable b overload memory text signature accepted) ?_
    rintro ⟨hnone, -⟩
    have harity : overload.params.length = b.args.length := hpicks.takes.arity.trans hlength
    exact hnone overload (Native.Table.mem_ofArity.2 ⟨hpicks.mem, hpicks.name_eq, harity⟩)
      hpicks.takes
  · have hnone' : ∀ overload ∈ natives.ofArity b.call.method b.args.length,
        ¬ overload.Takes b.kinds := by
      intro overload hmem
      obtain ⟨hmem, hname, -⟩ := Native.Table.mem_ofArity.1 hmem
      exact hnone overload hmem hname
    rw [hrun]
    simp only [Except.error.injEq, Failure.noSuchCallable.injEq, eq_comm (b := text),
      eq_comm (b := signature), eq_comm (b := accepted)]
    exact ⟨fun h => ⟨hnone', h⟩, fun h => h.2⟩

/-- Only the function that a run lists can matter to it: behind any other row of
the table another function may stand. -/
theorem runNative_swap {natives : Native.Table ν} {b : Binding} {keep : Nat → Bool}
    (run : Nat → List Json → ν → Except Native.Fault Json × ν) {memory : ν}
    (hkeep : ∀ name row args, .native name row args ∈ (runNative natives b memory).effects →
      keep row = true) :
    runNative (natives.swap keep run) b memory = runNative natives b memory := by
  rcases runNative_cases natives b memory with ⟨row, overload, hpicks, hrun⟩ | ⟨hnone, hrun⟩
  · have hrow : keep row = true := hkeep b.call.method row b.args (by rw [hrun]; simp)
    rw [hrun, runNative_of_picks (hpicks.swap run hrow)]
  · have hparams := congrArg (List.map (Binding.typedSignature b.call.method))
      (natives.params_ofArity_swap keep run b.call.method b.args.length)
    simp only [List.map_map, Function.comp_def] at hparams
    rw [hrun, runNative_of_not_takes (Native.Table.not_takes_swap keep run hnone), hparams]

/-- Without a script nothing is done; one that does not load is loaded and no
more; of any other the function is called on the host that the load has left. -/
theorem runScript_cases (host : Script.Host σ) (entry : Entry) (b : Binding) (s : σ) :
    (entry.source? = none ∧ runScript host entry b s =
        ⟨.error (.sourceMissing b.call.method (Binding.typedSignature b.call.method b.kinds)),
          [], s⟩) ∨
      ∃ source, entry.source? = some source ∧
        ((∃ words t, host.load source s = (.error words, t) ∧ runScript host entry b s =
            ⟨.error (.script b.call.method words), [.load source], t⟩) ∨
          ∃ t, host.load source s = (.ok (), t) ∧ runScript host entry b s =
            ⟨(host.call b.call.method b.args t).1.mapError (.script b.call.method),
              [.load source, .call b.call.method b.args],
              (host.call b.call.method b.args t).2⟩) := by
  unfold runScript
  cases entry.source? with
  | none => exact Or.inl ⟨rfl, rfl⟩
  | some source =>
    refine Or.inr ⟨source, rfl, ?_⟩
    rcases hload : host.load source s with ⟨words | ⟨⟩, t⟩
    · exact Or.inl ⟨words, t, rfl, by simp only [hload]⟩
    · exact Or.inr ⟨t, rfl, by simp only [hload]⟩

/-- If there is a script, a run of it is its load and the call behind that. -/
theorem runScript_of_source {host : Script.Host σ} {entry : Entry} {source : String}
    (h : entry.source? = some source) (b : Binding) (s : σ) :
    runScript host entry b s =
      ⟨(host.loadThenCall source b.call.method b.args s).1.mapError (.script b.call.method),
        .load source ::
          if (host.load source s).1.isOk then [.call b.call.method b.args] else [],
        (host.loadThenCall source b.call.method b.args s).2⟩ := by
  rcases runScript_cases host entry b s with ⟨hnone, -⟩ | ⟨source', hsource, hrun⟩
  · exact nomatch h.symm.trans hnone
  · obtain rfl : source = source' := Option.some.inj (h.symm.trans hsource)
    rcases hrun with ⟨words, t, hload, hrun⟩ | ⟨t, hload, hrun⟩
    all_goals
      rw [hrun, Script.Host.loadThenCall, hload]
      rfl

end Backend

end Switchboard
