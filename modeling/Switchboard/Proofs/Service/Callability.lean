import Switchboard.Proofs.Access.Methods
import Switchboard.Proofs.Call.Rendering
import Switchboard.Proofs.Registry.RoundTrip

/-!
# Which functions can be called

Whether any call of a function is admitted can be told from the report on the
registry: its name has to be one, its way of running known, and, if it lists
methods, one of them a verb.  Its least version and its tag can always be met.

## Main statements

* `Gate.exists_admits_iff`: which entries some caller may call by.
* `Service.exists_admission_iff`: which functions some request is admitted to.
* `Service.callable_iff_report`: a report tells which functions can be called.
-/

namespace Switchboard

namespace Gate

variable {settings : Settings} {entry : Entry}

/-- Some verb fits the methods of an entry that was read, if it lists none or one
that means a verb. -/
theorem exists_methodFits_iff (h : entry.Normal) :
    (∃ verb : Verb, ∀ tag version, MethodFits ⟨verb, tag, version⟩ entry) ↔
      entry.allowedMethods = none ∨ ∃ method ∈ entry.methods, Verb.ofText? method ≠ none := by
  cases hset : entry.allowedMethods with
  | none =>
    refine iff_of_true ⟨.get, fun _ _ _ hsome => ?_⟩ (Or.inl rfl)
    cases hset.symm.trans hsome
  | some set =>
    obtain ⟨hkeys, htrimmed⟩ := h.methods set hset
    rw [Entry.methods_of_allowedMethods hset]
    simp only [reduceCtorEq, false_or, methodFits_iff_listed hset hkeys]
    constructor
    · rintro ⟨verb, hfits⟩
      obtain ⟨listed, hmem, -, hmeans⟩ := hfits none 0
      exact ⟨listed, hmem, Option.ne_none_iff_exists'.2 ⟨verb, hmeans⟩⟩
    · rintro ⟨method, hmem, hsome⟩
      obtain ⟨verb, hmeans⟩ := Option.ne_none_iff_exists'.1 hsome
      exact ⟨verb, fun _ _ => ⟨method, hmem, (htrimmed method hmem).2, hmeans⟩⟩

/-- Some caller may call by an entry that was read, if it runs and some verb fits. -/
theorem exists_admits_iff (h : entry.Normal) :
    (∃ caller : Caller, Decimal.isInt64 caller.version = true ∧ Admits settings caller entry) ↔
      Runs settings entry ∧
        (entry.allowedMethods = none ∨ ∃ method ∈ entry.methods, Verb.ofText? method ≠ none) := by
  rw [← exists_methodFits_iff h]
  constructor
  · rintro ⟨caller, -, hadmits⟩
    exact ⟨hadmits.execution, caller.method, fun _ _ => hadmits.method⟩
  · rintro ⟨hruns, verb, hfits⟩
    -- the caller has just the version and the tag that the entry asks for
    exact ⟨⟨verb, entry.requiredTag, entry.minVersion⟩, h.minVersion, hruns, Int.le_refl _,
      fun _ htag => htag, hfits _ _⟩

end Gate

namespace Service

variable {settings : Settings} {registry : Registry} {name : String} {entry : Entry}

/-- Some request is admitted to the function under a name, if the name is one and
some caller may call by its entry. -/
theorem exists_admission_iff (hremote : settings.remoteEnabled = true)
    (hget : registry.get? name = some entry) :
    (∃ request call, Decimal.isInt64 request.caller.version = true ∧ call.method = name ∧
        admission settings registry request = .ok (call, entry)) ↔
      Text.SpellsName name ∧ ∃ caller : Caller, Decimal.isInt64 caller.version = true ∧
        Gate.Admits settings caller entry := by
  constructor
  · rintro ⟨request, call, hversion, rfl, hadmission⟩
    obtain ⟨-, hasks, hadmits⟩ := admission_eq_ok_iff.1 hadmission
    exact ⟨(Call.tidy_of_read hasks.reads).1, request.caller, hversion, hadmits⟩
  · rintro ⟨hname, caller, hversion, hadmits⟩
    have hread := Call.read_callText .remote hname Call.tidy_nil
    exact ⟨⟨Binding.callText name [], [], caller, none⟩, _, hversion, rfl,
      admission_eq_ok_iff.2 ⟨hremote, ⟨hread, hget⟩, hadmits⟩⟩

/-- Where calls are taken and scripts run, some request is admitted to a function
of a registry that was read exactly if the report shows neither that its name is
none nor that its way of running is unknown, and it lists no methods or one that
is not shown to be none. -/
theorem callable_iff_report {raw : Json} (hread : Registry.ofJson raw = .ok registry)
    (hget : registry.get? name = some entry) (hremote : settings.remoteEnabled = true)
    (hscripts : settings.scriptsEnabled = true) :
    (∃ request call, Decimal.isInt64 request.caller.version = true ∧ call.method = name ∧
        admission settings registry request = .ok (call, entry)) ↔
      ¬ registry.Reports "registry_invalid_name" ("functions." ++ name) ∧
      ¬ registry.Reports "registry_unsupported_kind" ("functions." ++ name ++ ".executionKind") ∧
      (entry.allowedMethods = none ∨
        ∃ method ∈ entry.methods, ¬ registry.ReportsMethod name method) := by
  have hnormal : entry.Normal :=
    Registry.normal_of_ofJson hread (name, entry) (Dict.get?_eq_some_iff.1 hget)
  have hruns : Gate.Runs settings entry ↔ ¬ ∃ kind, entry.execution = .unsupported kind := by
    cases h : entry.execution <;> simp [Gate.Runs, h, hscripts]
  have hmethods : ∀ method ∈ entry.methods,
      (¬ registry.ReportsMethod name method ↔ Verb.ofText? method ≠ none) := by
    intro method hmem
    rw [Registry.reportsMethod_iff hget, not_and]
    exact ⟨fun h => h hmem, fun h _ => h⟩
  rw [exists_admission_iff hremote hget, Gate.exists_admits_iff hnormal, hruns,
    Registry.reports_invalidName_iff hget, Registry.reports_unsupportedKind_iff hget, not_not]
  refine and_congr_right fun _ => and_congr_right fun _ => or_congr_right ?_
  exact exists_congr fun method => and_congr_right fun hmem => (hmethods method hmem).symm

/-- One of two functions can be called: the name of the other is none. -/
theorem callable_iff_report_mixedSpellings :
    Registry.ofJson Registry.mixedSpellings = .ok Registry.mixedRegistry ∧
      (∃ request call, Decimal.isInt64 request.caller.version = true ∧ call.method = "greet" ∧
        admission .standard Registry.mixedRegistry request = .ok (call,
          { Entry.script "fn greet() \x7b 1 \x7d" with
            allowedMethods := some (TextSet.ofList ["GET", "post"]) })) ∧
      ¬ ∃ request call, Decimal.isInt64 request.caller.version = true ∧ call.method = "odd one" ∧
        admission .standard Registry.mixedRegistry request = .ok (call, { Entry.native with
          execution := .unsupported "7", minVersion := -2, requiredTag := some "Moment",
          allowedMethods := some (TextSet.ofList ["PUT"]) }) := by
  have hread : Registry.ofJson Registry.mixedSpellings = .ok Registry.mixedRegistry := rfl
  refine ⟨hread, ?_, fun hcallable => ?_⟩
  · refine (callable_iff_report hread rfl rfl rfl).2 ⟨?_, ?_, Or.inr ⟨"post", ?_, ?_⟩⟩
    · rw [Registry.reports_invalidName_iff rfl, not_not, ← Text.isName_iff]
      rfl
    · rw [Registry.reports_unsupportedKind_iff rfl]
      nofun
    · decide
    · rw [Registry.reportsMethod_iff rfl]
      nofun
  · refine ((callable_iff_report hread rfl rfl rfl).1 hcallable).1 ?_
    rw [Registry.reports_invalidName_iff rfl, ← Text.isName_iff]
    decide

end Service

end Switchboard
