import Switchboard.Proofs.Checks
import Switchboard.Service.Basic

/-!
# What admits a call

The conditions of an entry, said of the entry and the caller alone, and the
request that they are conditions of.  Each condition of the gate either holds
and is passed, or fails and gives its own denial; a call is admitted exactly if
calls are taken, the text is a call, the registry has an entry for its function
and the caller meets the entry's conditions.

## Main statements

* `Gate.grant_eq_ok_iff`: who is granted an entry.
* `Service.admission_eq_ok_iff`: which requests are admitted.
* `Service.invoke_of_permits`: an admitted request is served by its backend.
-/

namespace Switchboard

/-! ## The conditions of an entry -/

/-- A listed method names a verb whatever the case of its letters. -/
@[simp] theorem Verb.matchesName_iff {verb : Verb} {listed : String} :
    verb.matchesName listed = true ↔ Verb.upperCase listed = Verb.upperCase verb.name := by
  simp [Verb.matchesName]

namespace Gate

/-- The entry is one that can be run: its way of running is known and switched on. -/
def Runs (settings : Settings) (entry : Entry) : Prop :=
  entry.execution = .native ∨ entry.execution = .script ∧ settings.scriptsEnabled = true

/-- The caller has the tag that is required, if one is. -/
def TagFits (caller : Caller) (entry : Entry) : Prop :=
  ∀ required, entry.requiredTag = some required → caller.tag = some required

/-- The caller's method is listed whatever the case of its letters, if any method is. -/
def MethodFits (caller : Caller) (entry : Entry) : Prop :=
  ∀ set, entry.allowedMethods = some set → set.toList = [] ∨
    ∃ listed ∈ set.toList, Verb.upperCase listed = Verb.upperCase caller.method.name

/-- The conditions of an entry that a caller meets. -/
structure Admits (settings : Settings) (caller : Caller) (entry : Entry) : Prop where
  execution : Runs settings entry
  version : entry.minVersion ≤ caller.version
  tag : TagFits caller entry
  method : MethodFits caller entry

/-- The entry of a script open to everyone admits all but negative versions. -/
theorem admits_script {settings : Settings} {caller : Caller} (source : String)
    (hscripts : settings.scriptsEnabled = true) (hversion : 0 ≤ caller.version) :
    Admits settings caller (.script source) :=
  ⟨Or.inr ⟨rfl, hscripts⟩, hversion, nofun, nofun⟩

/-- The entry of a native function open to everyone admits all but negative versions. -/
theorem admits_native {settings : Settings} {caller : Caller} (hversion : 0 ≤ caller.version) :
    Admits settings caller .native :=
  ⟨Or.inl rfl, hversion, nofun, nofun⟩

/-! ## One condition after another -/

theorem requireExecution_cases (function : String) (entry : Entry) (settings : Settings) :
    Runs settings entry ∧ requireExecution function entry settings = .ok () ∨
      (entry.execution = .script ∧ settings.scriptsEnabled = false ∧
        requireExecution function entry settings = .error (.scriptDisabled function)) ∨
      ∃ kind, entry.execution = .unsupported kind ∧
        requireExecution function entry settings = .error (.unsupportedKind function kind) := by
  unfold Runs requireExecution
  cases entry.execution with
  | native => simp
  | script => cases settings.scriptsEnabled <;> simp
  | unsupported kind => simp

theorem requireVersion_cases (function : String) (entry : Entry) (caller : Caller) :
    entry.minVersion ≤ caller.version ∧ requireVersion function entry caller = .ok () ∨
      caller.version < entry.minVersion ∧ requireVersion function entry caller =
        .error (.versionTooLow function caller.version entry.minVersion) := by
  unfold requireVersion
  by_cases h : entry.minVersion ≤ caller.version
  · simp [h]
  · exact Or.inr ⟨by omega, if_neg h⟩

theorem requireTag_cases (function : String) (entry : Entry) (caller : Caller) :
    TagFits caller entry ∧ requireTag function entry caller = .ok () ∨
      ∃ required, entry.requiredTag = some required ∧ caller.tag ≠ some required ∧
        requireTag function entry caller =
          .error (.tagMismatch function caller.tag required) := by
  unfold TagFits requireTag
  cases entry.requiredTag with
  | none => simp
  | some required =>
    by_cases h : caller.tag = some required
    · simp [h]
    · exact Or.inr ⟨required, rfl, h, if_neg h⟩

theorem requireMethod_cases (function : String) (entry : Entry) (caller : Caller) :
    MethodFits caller entry ∧ requireMethod function entry caller = .ok () ∨
      ∃ set, entry.allowedMethods = some set ∧ set.toList ≠ [] ∧
        (∀ listed ∈ set.toList, Verb.upperCase listed ≠ Verb.upperCase caller.method.name) ∧
        requireMethod function entry caller =
          .error (.methodNotAllowed function caller.method set.toList) := by
  unfold MethodFits requireMethod
  cases entry.allowedMethods with
  | none => simp
  | some set =>
    have hempty : set.isEmpty = true ↔ set.toList = [] := by
      simp [Dict.isEmpty, TextSet.toList, Dict.keys]
    have hany : set.toList.any caller.method.matchesName = true ↔
        ∃ listed ∈ set.toList, Verb.upperCase listed = Verb.upperCase caller.method.name := by
      simp only [List.any_eq_true, Verb.matchesName_iff]
    by_cases h : (set.isEmpty || set.toList.any caller.method.matchesName) = true
    · refine Or.inl ⟨?_, if_pos h⟩
      rintro _ ⟨rfl⟩
      rwa [Bool.or_eq_true, hempty, hany] at h
    · refine Or.inr ⟨set, rfl, ?_, ?_, if_neg h⟩
      all_goals rw [Bool.or_eq_true, hempty, hany, not_or] at h
      · exact h.1
      · exact fun listed hmem heq => h.2 ⟨listed, hmem, heq⟩

/-! ## The gate as a whole -/

@[simp] theorem requireExecution_eq_ok_iff {function : String} {entry : Entry}
    {settings : Settings} {u : Unit} :
    requireExecution function entry settings = .ok u ↔ Runs settings entry := by
  rcases requireExecution_cases function entry settings with
    ⟨hruns, hok⟩ | ⟨hscript, hoff, herr⟩ | ⟨kind, hkind, herr⟩
  · exact iff_of_true hok hruns
  · rw [herr]
    simp [Runs, hscript, hoff]
  · rw [herr]
    simp [Runs, hkind]

@[simp] theorem requireVersion_eq_ok_iff {function : String} {entry : Entry} {caller : Caller}
    {u : Unit} :
    requireVersion function entry caller = .ok u ↔ entry.minVersion ≤ caller.version := by
  rcases requireVersion_cases function entry caller with ⟨hle, hok⟩ | ⟨hlt, herr⟩
  · exact iff_of_true hok hle
  · rw [herr]
    simpa using hlt

@[simp] theorem requireTag_eq_ok_iff {function : String} {entry : Entry} {caller : Caller}
    {u : Unit} :
    requireTag function entry caller = .ok u ↔ TagFits caller entry := by
  rcases requireTag_cases function entry caller with ⟨hfits, hok⟩ | ⟨required, hreq, hne, herr⟩
  · exact iff_of_true hok hfits
  · rw [herr]
    exact iff_of_false (by simp) fun hfits => hne (hfits required hreq)

@[simp] theorem requireMethod_eq_ok_iff {function : String} {entry : Entry} {caller : Caller}
    {u : Unit} :
    requireMethod function entry caller = .ok u ↔ MethodFits caller entry := by
  rcases requireMethod_cases function entry caller with
    ⟨hfits, hok⟩ | ⟨set, hset, hsome, hnone, herr⟩
  · exact iff_of_true hok hfits
  · rw [herr]
    refine iff_of_false (by simp) fun hfits => ?_
    rcases hfits set hset with hempty | ⟨listed, hmem, heq⟩
    · exact hsome hempty
    · exact hnone listed hmem heq

/-- An entry is granted exactly to the callers who meet its conditions. -/
@[simp] theorem grant_eq_ok_iff {function : String} {found : Option Entry} {caller : Caller}
    {settings : Settings} {entry : Entry} :
    grant function found caller settings = .ok entry ↔
      found = some entry ∧ Admits settings caller entry := by
  cases found with
  | none => simp [grant]
  | some e =>
    simp only [grant, bind_eq_ok_iff, requireExecution_eq_ok_iff, requireVersion_eq_ok_iff,
      requireTag_eq_ok_iff, requireMethod_eq_ok_iff, exists_const, pure, Except.pure,
      Except.ok.injEq, Option.some.injEq]
    constructor
    · rintro ⟨hexecution, hversion, htag, hmethod, rfl⟩
      exact ⟨rfl, hexecution, hversion, htag, hmethod⟩
    · rintro ⟨rfl, hadmits⟩
      exact ⟨hadmits.execution, hadmits.version, hadmits.tag, hadmits.method, rfl⟩

end Gate

namespace Service

/-- A request asks for a call of a function that the registry has an entry for. -/
structure Asks (registry : Registry) (request : Request) (call : Call) (entry : Entry) :
    Prop where
  reads : Call.read .remote request.text = .ok call
  listed : registry.get? call.method = some entry

theorem Asks.unique {registry : Registry} {request : Request} {call call' : Call}
    {entry entry' : Entry} (h : Asks registry request call entry)
    (h' : Asks registry request call' entry') : call = call' ∧ entry = entry' := by
  have hcall : call = call' := Except.ok.inj (h.reads.symm.trans h'.reads)
  subst hcall
  exact ⟨rfl, Option.some.inj (h.listed.symm.trans h'.listed)⟩

/-- A request may be served by an entry: calls are taken, the entry is that of
the function asked for, and the caller meets its conditions. -/
structure Permits (settings : Settings) (registry : Registry) (request : Request) (call : Call)
    (entry : Entry) : Prop where
  remote : settings.remoteEnabled = true
  asks : Asks registry request call entry
  admits : Gate.Admits settings request.caller entry

/-- A request is admitted exactly if it may be served. -/
@[simp] theorem admission_eq_ok_iff {settings : Settings} {registry : Registry} {request : Request}
    {call : Call} {entry : Entry} :
    admission settings registry request = .ok (call, entry) ↔
      Permits settings registry request call entry := by
  have hremote : ∀ u, Gate.requireRemote request.text settings = .ok u ↔
      settings.remoteEnabled = true := by
    intro u
    cases h : settings.remoteEnabled <;> simp [Gate.requireRemote, h]
  simp only [admission, bind_eq_ok_iff, mapError_eq_ok_iff, hremote, Gate.grant_eq_ok_iff,
    exists_const, pure, Except.pure, Except.ok.injEq, Prod.mk.injEq]
  constructor
  · rintro ⟨hon, c, hread, e, ⟨hlisted, hadmits⟩, rfl, rfl⟩
    exact ⟨hon, ⟨hread, hlisted⟩, hadmits⟩
  · rintro ⟨hon, hasks, hadmits⟩
    exact ⟨hon, call, hasks.reads, entry, ⟨hasks.listed, hadmits⟩, rfl, rfl⟩

/-- A request is refused, or it may be served. -/
theorem admission_cases (settings : Settings) (registry : Registry) (request : Request) :
    (∃ e, admission settings registry request = .error e) ∨
      ∃ call entry, Permits settings registry request call entry := by
  cases hadmission : admission settings registry request with
  | error e => exact Or.inl ⟨e, rfl⟩
  | ok admitted => exact Or.inr ⟨admitted.1, admitted.2, admission_eq_ok_iff.1 hadmission⟩

section

variable {ν σ : Type} {service : Service ν σ} {request : Request} {s : State ν σ}

/-- A request that is refused is answered with the refusal, and nothing is done. -/
theorem invoke_of_refused {e : CallError}
    (h : admission service.settings s.registry request = .error e) :
    service.invoke request s = ⟨.error e, [], s.memory⟩ := by
  simp only [invoke, h]

/-- What an admitted request does, its backend does. -/
theorem invoke_of_permits {call : Call} {entry : Entry}
    (h : Permits service.settings s.registry request call entry) :
    service.invoke request s =
      let ran := Backend.run service.natives service.host entry call request.context
        service.settings.resolution request.fragments s.memory
      ⟨(ran.result.mapError .failed).bind (checkResult service.settings call.method entry),
        ran.effects, ran.memory⟩ := by
  simp only [invoke, admission_eq_ok_iff.2 h]
  split <;> rename_i hresult <;> simp [hresult, Except.bind]

end

end Service

end Switchboard
