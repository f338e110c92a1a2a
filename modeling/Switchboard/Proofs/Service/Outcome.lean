import Switchboard.Proofs.Service.Stages

/-!
# The outcome of a call

A call is answered by the first of its stages that fails, and by the value that
its backend yields if none does.

## Main statements

* `Service.admission_settles`: the first seven stages.
* `Service.invoke_settles`: all ten.
* `Service.outcome_eq_first_failure`: the answer, by the stages alone.
-/

namespace Switchboard.Service

variable {ν σ : Type} {service : Service ν σ} {request : Request} {s : State ν σ}

/-! ## Stages that are passed -/

section

variable {call : Call} {entry : Entry}

theorem not_fails_remote (h : service.settings.remoteEnabled = true) (e : CallError) :
    ¬ Fails service request s .remote e := by
  rintro ⟨hoff⟩
  simp [h] at hoff

theorem not_fails_expression (h : Call.read .remote request.text = .ok call) (e : CallError) :
    ¬ Fails service request s .expression e := by
  intro hfails
  cases hfails with
  | expression hread => simp [h] at hread

theorem not_fails_entry (h : Asks s.registry request call entry) (e : CallError) :
    ¬ Fails service request s .entry e := by
  intro hfails
  cases hfails with
  | entry hread hnone =>
    obtain rfl := Except.ok.inj (h.reads.symm.trans hread)
    simp [h.listed] at hnone

theorem not_fails_execution (h : Asks s.registry request call entry)
    (hruns : Gate.Runs service.settings entry) (e : CallError) :
    ¬ Fails service request s .execution e := by
  intro hfails
  cases hfails with
  | unsupported hasks hkind =>
    obtain ⟨-, rfl⟩ := h.unique hasks
    simp [Gate.Runs, hkind] at hruns
  | scriptDisabled hasks hscript hoff =>
    obtain ⟨-, rfl⟩ := h.unique hasks
    simp [Gate.Runs, hscript, hoff] at hruns

theorem not_fails_version (h : Asks s.registry request call entry)
    (hversion : entry.minVersion ≤ request.caller.version) (e : CallError) :
    ¬ Fails service request s .version e := by
  intro hfails
  cases hfails with
  | version hasks hlow =>
    obtain ⟨-, rfl⟩ := h.unique hasks
    omega

theorem not_fails_tag (h : Asks s.registry request call entry)
    (htag : Gate.TagFits request.caller entry) (e : CallError) :
    ¬ Fails service request s .tag e := by
  intro hfails
  cases hfails with
  | tag hasks hrequired hother =>
    obtain ⟨-, rfl⟩ := h.unique hasks
    exact hother (htag _ hrequired)

theorem not_fails_method (h : Asks s.registry request call entry)
    (hmethod : Gate.MethodFits request.caller entry) (e : CallError) :
    ¬ Fails service request s .method e := by
  intro hfails
  cases hfails with
  | method hasks hset hsome hother =>
    obtain ⟨-, rfl⟩ := h.unique hasks
    rcases hmethod _ hset with hempty | ⟨listed, hmem, heq⟩
    · exact hsome hempty
    · exact hother listed hmem heq

theorem not_fails_target_of_picks {row : Nat} {overload : Native.Overload ν}
    (h : Asks s.registry request call entry) (hnative : entry.execution = .native)
    (hpicks : service.natives.Picks call.method (nativeBinding service request call).kinds
      row overload) (e : CallError) : ¬ Fails service request s .target e := by
  intro hfails
  cases hfails with
  | sourceMissing hasks hscript _ =>
    obtain ⟨-, rfl⟩ := h.unique hasks
    simp [hnative] at hscript
  | noSuchCallable hasks _ hnone =>
    obtain ⟨rfl, -⟩ := h.unique hasks
    exact hnone overload hpicks.mem hpicks.name_eq hpicks.takes

theorem not_fails_target_of_source {source : String} (h : Asks s.registry request call entry)
    (hscript : entry.execution = .script) (hsource : entry.source? = some source)
    (e : CallError) : ¬ Fails service request s .target e := by
  intro hfails
  cases hfails with
  | sourceMissing hasks _ hnone =>
    obtain ⟨-, rfl⟩ := h.unique hasks
    simp [Entry.source?_eq_none_iff.2 hnone] at hsource
  | noSuchCallable hasks hnative _ =>
    obtain ⟨-, rfl⟩ := h.unique hasks
    simp [hscript] at hnative

theorem not_fails_running {v : Json} (h : Asks s.registry request call entry)
    (hends : Ends service request s call entry (.ok v)) (e : CallError) :
    ¬ Fails service request s .running e := by
  intro hfails
  cases hfails with
  | running hasks hends' =>
    obtain ⟨rfl, rfl⟩ := h.unique hasks
    simpa using hends.result_run.symm.trans hends'.result_run

theorem not_fails_returned {v : Json} (h : Asks s.registry request call entry)
    (hends : Ends service request s call entry (.ok v))
    (hcheck : service.settings.strictReturns = true →
      checkReturned call.method v entry.returns = .ok ()) (e : CallError) :
    ¬ Fails service request s .returned e := by
  intro hfails
  cases hfails with
  | returned hasks hstrict hends' herr =>
    obtain ⟨rfl, rfl⟩ := h.unique hasks
    obtain rfl := Except.ok.inj (hends.result_run.symm.trans hends'.result_run)
    simp [hcheck hstrict] at herr

end

/-! ## The first failure -/

/-- The first stage that fails does so with an error. -/
def Stops (service : Service ν σ) (request : Request) (s : State ν σ) (stage : Stage)
    (e : CallError) : Prop :=
  Fails service request s stage e ∧ Reaches service request s stage.rank

/-- The conditions of the entry stop a request or let it through. -/
theorem grant_settles {call : Call} {entry : Entry} (hasks : Asks s.registry request call entry)
    (h3 : Reaches service request s 3) :
    (∃ stage d, stage.rank < 7 ∧ Stops service request s stage (.denied d) ∧
        Gate.grant call.method (some entry) request.caller service.settings = .error d) ∨
      Gate.Admits service.settings request.caller entry ∧ Reaches service request s 7 := by
  rcases Gate.requireExecution_cases call.method entry service.settings with
    ⟨hruns, hexecution⟩ | ⟨hscript, hoff, herr⟩ | ⟨kind, hkind, herr⟩
  rotate_left
  · refine Or.inl ⟨.execution, _, by decide, ⟨.scriptDisabled hasks hscript hoff, h3⟩, ?_⟩
    simp [Gate.grant, herr, bind, Except.bind]
  · refine Or.inl ⟨.execution, _, by decide, ⟨.unsupported hasks hkind, h3⟩, ?_⟩
    simp [Gate.grant, herr, bind, Except.bind]
  have h4 : Reaches service request s 4 :=
    h3.succ .execution (not_fails_execution hasks hruns)
  rcases Gate.requireVersion_cases call.method entry request.caller with
    ⟨hle, hversion⟩ | ⟨hlow, herr⟩
  rotate_left
  · refine Or.inl ⟨.version, _, by decide, ⟨.version hasks hlow, h4⟩, ?_⟩
    simp [Gate.grant, hexecution, herr, bind, Except.bind]
  have h5 : Reaches service request s 5 := h4.succ .version (not_fails_version hasks hle)
  rcases Gate.requireTag_cases call.method entry request.caller with
    ⟨hfits, htag⟩ | ⟨required, hrequired, hother, herr⟩
  rotate_left
  · refine Or.inl ⟨.tag, _, by decide, ⟨.tag hasks hrequired hother, h5⟩, ?_⟩
    simp [Gate.grant, hexecution, hversion, herr, bind, Except.bind]
  have h6 : Reaches service request s 6 := h5.succ .tag (not_fails_tag hasks hfits)
  rcases Gate.requireMethod_cases call.method entry request.caller with
    ⟨hlisted, -⟩ | ⟨set, hset, hsome, hother, herr⟩
  · exact Or.inr ⟨⟨hruns, hle, hfits, hlisted⟩,
      h6.succ .method (not_fails_method hasks hlisted)⟩
  · refine Or.inl ⟨.method, _, by decide, ⟨.method hasks hset hsome hother, h6⟩, ?_⟩
    simp [Gate.grant, hexecution, hversion, htag, herr, bind, Except.bind]

/-- A request is either stopped by one of the first seven stages or admitted. -/
theorem admission_settles (service : Service ν σ) (request : Request) (s : State ν σ) :
    (∃ stage e, stage.rank < 7 ∧ Stops service request s stage e ∧
        admission service.settings s.registry request = .error e) ∨
      ∃ call entry, Permits service.settings s.registry request call entry ∧
        Reaches service request s 7 := by
  cases hremote : service.settings.remoteEnabled with
  | false =>
    refine Or.inl ⟨.remote, _, by decide, ⟨.remote hremote, Reaches.zero⟩, ?_⟩
    simp [admission, Gate.requireRemote, hremote, bind, Except.bind]
  | true =>
    have h1 : Reaches service request s 1 := Reaches.zero.succ .remote (not_fails_remote hremote)
    cases hread : Call.read .remote request.text with
    | error e =>
      refine Or.inl ⟨.expression, _, by decide, ⟨.expression hread, h1⟩, ?_⟩
      simp [admission, Gate.requireRemote, hremote, hread, bind, Except.bind]
    | ok call =>
      have h2 : Reaches service request s 2 :=
        h1.succ .expression (not_fails_expression hread)
      cases hlisted : s.registry.get? call.method with
      | none =>
        refine Or.inl ⟨.entry, _, by decide, ⟨.entry hread hlisted, h2⟩, ?_⟩
        simp [admission, Gate.requireRemote, hremote, hread, hlisted, Gate.grant,
          bind, Except.bind]
      | some entry =>
        have hasks : Asks s.registry request call entry := ⟨hread, hlisted⟩
        have h3 : Reaches service request s 3 := h2.succ .entry (not_fails_entry hasks)
        rcases grant_settles hasks h3 with ⟨stage, d, hrank, hstops, hgrant⟩ | ⟨hadmits, h7⟩
        · refine Or.inl ⟨stage, _, hrank, hstops, ?_⟩
          simp [admission, Gate.requireRemote, hremote, hread, hlisted, hgrant,
            bind, Except.bind]
        · exact Or.inr ⟨call, entry, ⟨hremote, hasks, hadmits⟩, h7⟩

/-- Either there is nothing to run by an entry, or it runs and ends. -/
theorem run_ends {call : Call} {entry : Entry} (hasks : Asks s.registry request call entry)
    (hruns : Gate.Runs service.settings entry) :
    (∃ failure, Fails service request s .target (.failed failure) ∧
        Backend.run service.natives service.host entry call request.context
          service.settings.resolution request.fragments s.memory = ⟨.error failure, [], s.memory⟩) ∨
      (∀ e, ¬ Fails service request s .target e) ∧ Ends service request s call entry
        (Backend.run service.natives service.host entry call request.context
          service.settings.resolution request.fragments s.memory).result := by
  rcases hruns with hnative | ⟨hscript, -⟩
  · rcases Backend.runNative_cases service.natives (nativeBinding service request call)
        s.memory.natives with
      ⟨row, overload, hpicks, -⟩ | ⟨hnone, hrun⟩
    · simp only [nativeBinding, Binding.call_bind] at hpicks
      refine Or.inr ⟨not_fails_target_of_picks hasks hnative hpicks, ?_⟩
      cases hran : (overload.run (nativeBinding service request call).args s.memory.natives).1 with
      | ok v => exact (Ends.returns hnative hpicks hran).ends_run
      | error fault =>
        cases hblank : Text.isAllBlank fault.message with
        | true => exact (Ends.refused hnative hpicks hran hblank).ends_run
        | false => exact (Ends.faulted hnative hpicks hran hblank).ends_run
    · refine Or.inl ⟨_, .noSuchCallable hasks hnative ?_, ?_⟩
      · simpa only [nativeBinding, Binding.call_bind] using hnone
      · simp only [nativeBinding, Binding.call_bind] at hrun ⊢
        simp only [Backend.run, hnative, hrun]
  · rcases Backend.runScript_cases service.host entry (scriptBinding request call)
        s.memory.scripts with
      ⟨hnone, hrun⟩ | ⟨source, hsource, hrun⟩
    · refine Or.inl ⟨_, .sourceMissing hasks hscript
        (Entry.source?_eq_none_iff.1 hnone), ?_⟩
      simp only [scriptBinding, Binding.call_bind] at hrun ⊢
      simp only [Backend.run, hscript, hrun]
    · refine Or.inr ⟨not_fails_target_of_source hasks hscript hsource, ?_⟩
      rcases hrun with ⟨words, t, hload, -⟩ | ⟨t, hload, -⟩
      · exact (Ends.loadFails hscript hsource hload).ends_run
      · exact (Ends.called hscript hsource hload).ends_run

theorem checkResult_cases (settings : Settings) (function : String) (entry : Entry) (v : Json) :
    ((settings.strictReturns = true → checkReturned function v entry.returns = .ok ()) ∧
        checkResult settings function entry v = .ok v) ∨
      settings.strictReturns = true ∧ ∃ fault, checkReturned function v entry.returns =
        .error fault ∧ checkResult settings function entry v = .error (.returned fault) := by
  cases hstrict : settings.strictReturns with
  | false => exact Or.inl ⟨nofun, by simp [checkResult, hstrict]⟩
  | true =>
    cases hcheck : checkReturned function v entry.returns with
    | ok _ => exact Or.inl ⟨fun _ => rfl, by simp [checkResult, hstrict, hcheck]⟩
    | error fault => exact Or.inr ⟨rfl, fault, rfl, by simp [checkResult, hstrict, hcheck]⟩

/-- A call is stopped by one of its stages, before anything is done unless what
runs or what it returned is at fault, or it passes them all. -/
theorem invoke_settles (service : Service ν σ) (request : Request) (s : State ν σ) :
    (∃ stage e, Stops service request s stage e ∧ (service.invoke request s).result = .error e ∧
        (stage.rank < 8 → (service.invoke request s).effects = [])) ∨
      ∃ call entry v, Asks s.registry request call entry ∧ Reaches service request s 10 ∧
        Ends service request s call entry (.ok v) ∧
        (service.invoke request s).result = .ok v := by
  rcases admission_settles service request s with
    ⟨stage, e, -, hstops, hrefused⟩ | ⟨call, entry, hpermits, h7⟩
  · refine Or.inl ⟨stage, e, hstops, ?_⟩
    simp [invoke_of_refused hrefused]
  · have hasks := hpermits.asks
    rw [invoke_of_permits hpermits]
    rcases run_ends hasks hpermits.admits.execution with
      ⟨failure, hfails, hrun⟩ | ⟨htarget, hends⟩
    · refine Or.inl ⟨.target, _, ⟨hfails, h7⟩, ?_⟩
      simp [hrun, Except.bind]
    · have h8 : Reaches service request s 8 := h7.succ .target htarget
      cases hresult : (Backend.run service.natives service.host entry call request.context
          service.settings.resolution request.fragments s.memory).result with
      | error failure =>
        rw [hresult] at hends
        refine Or.inl ⟨.running, _, ⟨.running hasks hends, h8⟩, ?_⟩
        simp [hresult, Except.bind, Stage.rank]
      | ok v =>
        rw [hresult] at hends
        have h9 : Reaches service request s 9 :=
          h8.succ .running (not_fails_running hasks hends)
        rcases checkResult_cases service.settings call.method entry v with
          ⟨hcheck, hchecked⟩ | ⟨hstrict, fault, hcheck, hchecked⟩
        · refine Or.inr ⟨call, entry, v, hasks, ?_, hends, ?_⟩
          · exact h9.succ .returned (not_fails_returned hasks hends hcheck)
          · simp [hresult, hchecked, Except.bind]
        · refine Or.inl ⟨.returned, _, ⟨.returned hasks hstrict hends hcheck, h9⟩, ?_, ?_⟩
          · simp [hresult, hchecked, Except.bind]
          · intro hlt
            exact absurd hlt (by decide)

theorem Ends.failureClass_mem {call : Call} {entry : Entry} {r : Except Failure Json}
    (h : Ends service request s call entry r) (failure : Failure) (hr : r = .error failure) :
    failure.failureClass ∈ Stage.running.classes := by
  cases h with
  | returns _ _ _ => cases hr
  | refused _ _ _ _ | faulted _ _ _ _ | loadFails _ _ _ =>
    cases hr
    simp [Failure.failureClass, Stage.classes]
  | @called source t _ _ _ =>
    cases hcall : (service.host.call call.method (scriptBinding request call).args t).1 with
    | ok _ => simp [hcall] at hr
    | error words =>
      simp only [hcall, mapError_error, Except.error.injEq] at hr
      subst hr
      simp [Failure.failureClass, Stage.classes]

/-- The error of a stage is of a class of that stage. -/
theorem Fails.failureClass_mem {stage : Stage} {e : CallError}
    (h : Fails service request s stage e) : e.failureClass ∈ stage.classes := by
  cases h with
  | running _ hends => exact hends.failureClass_mem _ rfl
  | returned _ _ _ _ =>
    rename_i fault _ _ _ _
    cases fault <;> simp [CallError.failureClass, ReturnFault.failureClass, Stage.classes]
  | _ => simp [CallError.failureClass, Denial.failureClass, Failure.failureClass,
      Malformed.failureClass, Stage.classes]

/-- Only one stage can be the first that fails. -/
theorem Stops.unique {stage stage' : Stage} {e e' : CallError}
    (h : Stops service request s stage e) (h' : Stops service request s stage' e') :
    stage = stage' ∧ e = e' := by
  rcases Nat.lt_trichotomy stage.rank stage'.rank with hlt | heq | hgt
  · exact absurd h.1 (h'.2 stage hlt e)
  · obtain rfl := Stage.rank_injective heq
    exact ⟨rfl, h.1.unique h'.1⟩
  · exact absurd h'.1 (h.2 stage' hgt e')

/-- A call fails with the error of the first of its stages that fails.  It has a
value if none does, and then the value that its backend yielded.  Nothing is
done outside the service unless what was to run is there. -/
theorem outcome_eq_first_failure (service : Service ν σ) (request : Request) (s : State ν σ) :
    (∀ e, (service.invoke request s).result = .error e ↔
      ∃ stage, Stops service request s stage e) ∧
    (∀ v, (service.invoke request s).result = .ok v ↔
      (∀ stage e, ¬ Fails service request s stage e) ∧
        ∃ call entry, Asks s.registry request call entry ∧
          Ends service request s call entry (.ok v)) ∧
    (∀ stage e, Fails service request s stage e → e.failureClass ∈ stage.classes) ∧
    ∀ stage e, Stops service request s stage e → stage.rank < Stage.running.rank →
      (service.invoke request s).effects = [] := by
  refine ⟨?_, ?_, fun _ _ hfails => hfails.failureClass_mem, ?_⟩
  · intro e
    rcases invoke_settles service request s with
      ⟨stage, e', hstops, herror, -⟩ | ⟨call, entry, v, -, h10, -, hok⟩
    · rw [herror]
      constructor
      · rintro ⟨⟩
        exact ⟨stage, hstops⟩
      · rintro ⟨stage', hstops'⟩
        rw [(hstops.unique hstops').2]
    · rw [hok]
      constructor
      · rintro ⟨⟩
      · rintro ⟨stage, hstops⟩
        exact absurd hstops.1 (h10 stage stage.rank_lt e)
  · intro v
    rcases invoke_settles service request s with
      ⟨stage, e', hstops, herror, -⟩ | ⟨call, entry, v', hasks, h10, hends, hok⟩
    · rw [herror]
      constructor
      · rintro ⟨⟩
      · rintro ⟨hnone, -⟩
        exact absurd hstops.1 (hnone stage e')
    · rw [hok]
      constructor
      · rintro ⟨⟩
        exact ⟨fun stage e => h10 stage stage.rank_lt e, call, entry, hasks, hends⟩
      · rintro ⟨-, call', entry', hasks', hends'⟩
        obtain ⟨rfl, rfl⟩ := hasks.unique hasks'
        rw [Except.ok.inj (hends.result_run.symm.trans hends'.result_run)]
  · intro stage e hstops hrank
    rcases invoke_settles service request s with
      ⟨stage', e', hstops', -, heffects⟩ | ⟨call, entry, v, -, h10, -, -⟩
    · obtain ⟨rfl, -⟩ := hstops.unique hstops'
      exact heffects hrank
    · exact absurd hstops.1 (h10 stage stage.rank_lt e)

end Switchboard.Service
