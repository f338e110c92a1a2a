import Switchboard.Proofs.Access.Verbs
import Switchboard.Proofs.Registry.Violations
import Switchboard.Proofs.Service.Admission

/-!
# Lists of methods

A report trims a listed method before it asks which verb is meant, the gate compares
it as it is listed.  Where a listed method is trimmed the two agree, and a method with
blanks around it names nobody at the gate, though the report passes it.

## Main statements

* `Gate.methodFits_iff_listed`: the callers whose method is listed.
* `Gate.grant_iff_listed`: the callers that an entry with listed methods admits.
-/

namespace Switchboard.Gate

variable {settings : Settings} {caller : Caller} {entry : Entry} {set : TextSet}

/-- The method of a caller fits an entry that lists methods if it is meant by one that
is listed without blanks around it. -/
theorem methodFits_iff_listed (hset : entry.allowedMethods = some set) (hlists : set.toList ≠ []) :
    MethodFits caller entry ↔ ∃ listed ∈ set.toList,
      Text.trim listed = listed ∧ Verb.ofText? listed = some caller.method := by
  simp only [MethodFits, hset, Option.some.injEq, forall_eq', hlists, false_or,
    Verb.upperCase_eq_name_iff]

/-- Where a caller meets its other conditions, an entry that lists methods admits the
caller exactly if one of them, listed without blanks around it, passes the report and
means the caller's method.  A listed method passes the report if it means any verb. -/
theorem grant_iff_listed {registry : Registry} {name : String}
    (hget : registry.get? name = some entry) (hset : entry.allowedMethods = some set)
    (hlists : set.toList ≠ []) (hruns : Runs settings entry)
    (hversion : entry.minVersion ≤ caller.version) (htag : TagFits caller entry) :
    (grant name (some entry) caller settings = .ok entry ↔
      ∃ listed ∈ set.toList, Text.trim listed = listed ∧ ¬ registry.ReportsMethod name listed ∧
        Verb.ofText? listed = some caller.method) ∧
    ∀ listed ∈ set.toList,
      (¬ registry.ReportsMethod name listed ↔ ∃ verb, Verb.ofText? listed = some verb) := by
  have hpasses : ∀ listed ∈ set.toList,
      (¬ registry.ReportsMethod name listed ↔ ∃ verb, Verb.ofText? listed = some verb) := by
    intro listed hlisted
    rw [Registry.reportsMethod_iff hget, Entry.methods_of_allowedMethods hset,
      ← Option.ne_none_iff_exists', not_and]
    exact ⟨fun h => h hlisted, fun h _ => h⟩
  have hadmits : Admits settings caller entry ↔ MethodFits caller entry :=
    ⟨Admits.method, fun hmethod => ⟨hruns, hversion, htag, hmethod⟩⟩
  refine ⟨?_, hpasses⟩
  rw [grant_eq_ok_iff, hadmits, methodFits_iff_listed hset hlists]
  constructor
  · rintro ⟨-, listed, hlisted, htrim, hmeans⟩
    exact ⟨listed, hlisted, htrim, (hpasses listed hlisted).2 ⟨_, hmeans⟩, hmeans⟩
  · rintro ⟨listed, hlisted, htrim, -, hmeans⟩
    exact ⟨rfl, listed, hlisted, htrim, hmeans⟩

/-- An entry that lists two methods, one of them behind a blank. -/
def putOrGet : Entry :=
  { Entry.native with allowedMethods := some (TextSet.ofList [" PUT", "get"]) }

/-- The registry of a function with these methods. -/
def saving : Registry :=
  Dict.ofList [("save", putOrGet)]

/-- Both methods pass the report, but only the one without a blank admits its caller. -/
theorem grant_iff_listed_putOrGet :
    saving.get? "save" = some putOrGet ∧
      putOrGet.allowedMethods = some (TextSet.ofList [" PUT", "get"]) ∧
      (¬ saving.ReportsMethod "save" " PUT" ∧ ¬ saving.ReportsMethod "save" "get") ∧
      grant "save" (some putOrGet) ⟨.get, none, 0⟩ .standard = .ok putOrGet ∧
      grant "save" (some putOrGet) ⟨.put, none, 0⟩ .standard ≠ .ok putOrGet := by
  have hget : saving.get? "save" = some putOrGet := rfl
  have hset : putOrGet.allowedMethods = some (TextSet.ofList [" PUT", "get"]) := rfl
  have hkeys : (TextSet.ofList [" PUT", "get"]).toList = [" PUT", "get"] := by decide +kernel
  have hadmits := fun verb : Verb => @grant_iff_listed .standard ⟨verb, none, 0⟩ _ _ _ _ hget hset
    (by simp [hkeys]) (Or.inl rfl) (Int.le_refl 0) nofun
  simp only [hkeys] at hadmits
  have hpasses := (hadmits .get).2
  have hread := (hpasses "get" (by simp)).2 ⟨.get, by decide +kernel⟩
  have hwrite := (hpasses " PUT" (by simp)).2 ⟨.put, by decide +kernel⟩
  refine ⟨hget, hset, ⟨hwrite, hread⟩, ?_, ?_⟩
  · exact (hadmits .get).1.2 ⟨"get", by simp, by decide +kernel, hread, by decide +kernel⟩
  · rw [Ne, (hadmits .put).1]
    rintro ⟨listed, hlisted, htrim, -, hmeans⟩
    revert listed
    decide +kernel

/-- The report passes a method behind a blank, and the gate does not admit its caller. -/
theorem not_forall_grant_iff_means :
    ¬ ∀ (settings : Settings) (caller : Caller) (name : String) (entry : Entry) (set : TextSet),
      entry.allowedMethods = some set → set.toList ≠ [] → Runs settings entry →
      entry.minVersion ≤ caller.version → TagFits caller entry →
      (grant name (some entry) caller settings = .ok entry ↔
        ∃ listed ∈ set.toList, Verb.ofText? listed = some caller.method) := by
  intro h
  have hgrant := (h .standard .anonymous "save"
    { Entry.native with allowedMethods := some (TextSet.ofList [" GET"]) } (TextSet.ofList [" GET"])
    rfl (by decide +kernel) (Or.inl rfl) (Int.le_refl 0) nofun).2
      ⟨" GET", by decide +kernel, by decide +kernel⟩
  revert hgrant
  decide +kernel

end Switchboard.Gate
