import Switchboard.Native.Stock
import Switchboard.Proofs.Service.Admission
import Switchboard.Proofs.Service.Runs

/-!
# What fragments and the way of handing over can show

The fragments of a request and the way in which arguments are handed over decide what
the keys of a call mean.  Neither is asked for where the other settles the matter: a
lazy call of a native function is handed its keys as they are written, and a script is
handed values whatever the settings say.

## Main definitions

* `Service.resolving`: a service with one way of handing over or the other.
* `Service.Refragmented`: runs that differ in the fragments of calls by native entries.
* `Service.DispatchesScripts`: every call of a run that is admitted is by a script's entry.

## Main statements

* `Service.step_of_refragments`: one step with other fragments.
* `Service.step_resolving`: one step with arguments handed over one way or the other.
* `Service.run_of_refragmented_and_resolving`: the same of whole runs.
-/

namespace Switchboard.Service

variable {ν σ : Type}

/-- The service with the arguments of native functions handed over in a given way. -/
def resolving (service : Service ν σ) (resolution : Resolution) : Service ν σ :=
  ⟨service.natives, service.host, { service.settings with resolution := resolution }⟩

/-! ## Other fragments -/

/-- A step and another one in its place: the same, or the same call with other fragments
or none, if the call is by the entry of a native function or refused. -/
inductive Refragments (settings : Settings) (registry : Registry) : Step → Step → Prop
  | same (next : Step) : Refragments settings registry next next
  | native {request : Request} {call : Call} {entry : Entry} (fragments : Option Fragments)
      (h : Permits settings registry request call entry) (hnative : entry.execution = .native) :
      Refragments settings registry (.invoke request)
        (.invoke { request with fragments := fragments })
  | refused {request : Request} {e : CallError} (fragments : Option Fragments)
      (h : admission settings registry request = .error e) :
      Refragments settings registry (.invoke request)
        (.invoke { request with fragments := fragments })

/-- Steps and others in their place, each under the registry that is installed when it is
its turn. -/
inductive Refragmented (settings : Settings) : Registry → List Step → List Step → Prop
  | nil (registry : Registry) : Refragmented settings registry [] []
  | cons {registry : Registry} {next next' : Step} {rest rest' : List Step}
      (h : Refragments settings registry next next')
      (hrest : Refragmented settings (installed registry [next]) rest rest') :
      Refragmented settings registry (next :: rest) (next' :: rest')

/-- Where calls are lazy a step is answered alike with other fragments, and leaves the
same state. -/
theorem step_of_refragments {service : Service ν σ} (hlazy : service.settings.resolution = .lazy)
    {s : State ν σ} {next next' : Step} (h : Refragments service.settings s.registry next next') :
    service.step s next' = service.step s next := by
  cases h with
  | same => rfl
  | @native request call entry fragments hpermits hnative =>
    have hpermits' : Permits service.settings s.registry
        { request with fragments := fragments } call entry :=
      ⟨hpermits.remote, ⟨hpermits.asks.reads, hpermits.asks.listed⟩, hpermits.admits⟩
    -- A call that is bound lazily holds the context and its keys, and no fragments.
    have hsame : service.invoke { request with fragments := fragments } s =
        service.invoke request s := by
      rw [invoke_of_permits hpermits, invoke_of_permits hpermits']
      simp only [Backend.run, hnative, hlazy, Binding.bind]
    simp only [step, hsame]
  | @refused request e fragments hrefused =>
    have hrefused' : admission service.settings s.registry
        { request with fragments := fragments } = .error e := hrefused
    simp only [step, invoke_of_refused hrefused, invoke_of_refused hrefused']

/-- Where calls are lazy a run is answered alike with other fragments. -/
theorem run_of_refragmented {service : Service ν σ} (hlazy : service.settings.resolution = .lazy)
    {s : State ν σ} {steps steps' : List Step}
    (h : Refragmented service.settings s.registry steps steps') :
    service.run s steps' = service.run s steps := by
  induction steps generalizing s steps' with
  | nil =>
    cases h
    rfl
  | cons next rest ih =>
    cases h with
    | @cons _ _ next' _ rest' hnext hrest =>
      have hstep := step_of_refragments hlazy hnext
      rw [← registry_step service s next] at hrest
      simp [hstep, ih hrest]

/-! ## Another way of handing over -/

/-- Every call of the steps that is admitted is by the entry of a script. -/
def DispatchesScripts (settings : Settings) (registry : Registry) (steps : List Step) : Prop :=
  ∀ (i : Nat) (request : Request) (call : Call) (entry : Entry),
    steps[i]? = some (.invoke request) →
    Permits settings (installed registry (steps.take i)) request call entry →
    entry.execution = .script

/-- How arguments are handed over plays no part in who may call what. -/
@[simp] theorem admission_resolving (service : Service ν σ) (resolution : Resolution)
    (registry : Registry) (request : Request) :
    admission (service.resolving resolution).settings registry request =
      admission service.settings registry request := rfl

theorem Permits.resolving {service : Service ν σ} {registry : Registry} {request : Request}
    {call : Call} {entry : Entry} (h : Permits service.settings registry request call entry)
    (resolution : Resolution) :
    Permits (service.resolving resolution).settings registry request call entry :=
  admission_eq_ok_iff.1
    ((admission_resolving service resolution registry request).trans (admission_eq_ok_iff.2 h))

/-- A request that is refused is refused whichever way arguments are handed over. -/
theorem invoke_resolving_of_refused {service : Service ν σ} {s : State ν σ} {request : Request}
    {e : CallError} (h : admission service.settings s.registry request = .error e)
    (resolution : Resolution) :
    (service.resolving resolution).invoke request s = ⟨.error e, [], s.memory⟩ :=
  invoke_of_refused ((admission_resolving service resolution s.registry request).trans h)

/-- A call by the entry of a script is handed values in any case. -/
theorem invoke_resolving_of_script {service : Service ν σ} {s : State ν σ} {request : Request}
    {call : Call} {entry : Entry} (h : Permits service.settings s.registry request call entry)
    (hscript : entry.execution = .script) (resolution : Resolution) :
    (service.resolving resolution).invoke request s =
      let ran := Backend.runScript service.host entry
        (Binding.bind call request.context request.fragments .eager) s.memory.scripts
      ⟨(ran.result.mapError .failed).bind (checkResult service.settings call.method entry),
        ran.effects, { s.memory with scripts := ran.memory }⟩ := by
  rw [invoke_of_permits (h.resolving resolution)]
  simp only [Backend.run, hscript]
  rfl

/-- A step that calls no native function is answered alike whichever way arguments are
handed over, and leaves the same state. -/
theorem step_resolving {service : Service ν σ} {s : State ν σ} {next : Step}
    (h : ∀ request call entry, next = .invoke request →
      Permits service.settings s.registry request call entry → entry.execution = .script)
    (resolution resolution' : Resolution) :
    (service.resolving resolution).step s next = (service.resolving resolution').step s next := by
  cases next with
  | replace registry => rfl
  | invoke request =>
    have hsame : (service.resolving resolution).invoke request s =
        (service.resolving resolution').invoke request s := by
      rcases admission_cases service.settings s.registry request with
        ⟨e, hrefused⟩ | ⟨call, entry, hpermits⟩
      · rw [invoke_resolving_of_refused hrefused, invoke_resolving_of_refused hrefused]
      · have hscript := h request call entry rfl hpermits
        rw [invoke_resolving_of_script hpermits hscript,
          invoke_resolving_of_script hpermits hscript]
    simp only [step, hsame]

/-- Behind its first step a run still calls no native function. -/
theorem DispatchesScripts.tail {settings : Settings} {registry : Registry} {next : Step}
    {rest : List Step} (h : DispatchesScripts settings registry (next :: rest)) :
    DispatchesScripts settings (installed registry [next]) rest := by
  intro i request call entry hnext hpermits
  refine h (i + 1) request call entry hnext ?_
  cases next <;> exact hpermits

theorem run_resolving {service : Service ν σ} {s : State ν σ} {steps : List Step}
    (h : DispatchesScripts service.settings s.registry steps)
    (resolution resolution' : Resolution) :
    (service.resolving resolution).run s steps = (service.resolving resolution').run s steps := by
  induction steps generalizing s with
  | nil => rfl
  | cons next rest ih =>
    have hstep := step_resolving (fun request call entry hnext hpermits =>
      h 0 request call entry (congrArg some hnext) hpermits) resolution resolution'
    have htail := h.tail
    rw [← registry_step (service.resolving resolution') s next] at htail
    simp [hstep, ih htail]

/-- A service that hands keys over lazily answers a run alike, and does the same, whatever
the fragments of calls by native entries are; and a run that calls no native function is
answered alike, and does the same, whether arguments are handed over lazily or eagerly. -/
theorem run_of_refragmented_and_resolving :
    (∀ (service : Service ν σ) (s : State ν σ) (steps steps' : List Step),
      service.settings.resolution = .lazy →
      Refragmented service.settings s.registry steps steps' →
      service.run s steps' = service.run s steps) ∧
    ∀ (service : Service ν σ) (s : State ν σ) (steps : List Step),
      DispatchesScripts service.settings s.registry steps →
      (service.resolving .lazy).run s steps = (service.resolving .eager).run s steps :=
  ⟨fun _ _ _ _ hlazy h => run_of_refragmented hlazy h,
    fun _ _ _ h => run_resolving h .lazy .eager⟩

/-- A service that looks values up for its functions, and whose host answers a call with
the arguments that it was handed. -/
def echoing : Service Unit Unit :=
  ⟨Native.stock, ⟨fun _ s => (.ok (), s), fun _ args s => (.ok (.arr args), s)⟩, .standard⟩

/-- The registry of a native function and a script. -/
def getAndEcho : Registry :=
  Dict.ofList [("echo", .script "fn echo(x) \x7b x \x7d"), ("get", .native)]

/-- A call about a context in which `k` stands for 1, and which may use fragments. -/
def aboutOne (text : String) (fragments : Option Fragments) : Step :=
  .invoke ⟨text, [("k", .int 1)], .anonymous, fragments⟩

/-- Fragments in which `k` stands for a function of the database. -/
def nowForK : Fragments :=
  Dict.ofList [("k", "now()")]

theorem permits_getAndEcho_get :
    Permits .standard getAndEcho ⟨"get(\x60k\x60)", [("k", .int 1)], .anonymous, none⟩
      ⟨"get(\x60k\x60)", none, "get", ["\x60k\x60"]⟩ .native := by
  have hlisted : getAndEcho.get? "get" = some .native := by
    simp [getAndEcho, Dict.ofList]
  exact ⟨rfl, ⟨by rfl, hlisted⟩, Gate.admits_native (Int.le_refl 0)⟩

/-- The call of the script is by the entry of a script. -/
theorem dispatchesScripts_echo :
    DispatchesScripts .standard getAndEcho [aboutOne "echo(\x60k\x60)" (some nowForK)] := by
  intro i request call entry hnext hpermits
  obtain _ | i := i
  · obtain rfl := Step.invoke.inj (Option.some.inj hnext)
    have hlisted : getAndEcho.get? "echo" = some (.script "fn echo(x) \x7b x \x7d") := by
      simp [getAndEcho, Dict.ofList]
    have hasks : Asks getAndEcho ⟨"echo(\x60k\x60)", [("k", .int 1)], .anonymous, some nowForK⟩
        ⟨"echo(\x60k\x60)", none, "echo", ["\x60k\x60"]⟩ (.script "fn echo(x) \x7b x \x7d") :=
      ⟨by rfl, hlisted⟩
    obtain ⟨-, rfl⟩ := hpermits.asks.unique hasks
    rfl
  · cases hnext

/-- Fragments that are there for a call of `get` do not show in its value.  They show in
what a script is handed, and do so under both settings. -/
theorem run_alike_getAndEcho :
    (echoing.run ⟨getAndEcho, (), ()⟩ [aboutOne "get(\x60k\x60)" (some nowForK)]).1 =
        (echoing.run ⟨getAndEcho, (), ()⟩ [aboutOne "get(\x60k\x60)" none]).1 ∧
      ((echoing.resolving .lazy).run ⟨getAndEcho, (), ()⟩
          [aboutOne "echo(\x60k\x60)" (some nowForK)]).1 =
        [.invoked (.ok (.arr [.str "now()"]))
          [.load "fn echo(x) \x7b x \x7d", .call "echo" [.str "now()"]]] := by
  have heager : ((echoing.resolving .eager).run ⟨getAndEcho, (), ()⟩
      [aboutOne "echo(\x60k\x60)" (some nowForK)]).1 =
        [.invoked (.ok (.arr [.str "now()"]))
          [.load "fn echo(x) \x7b x \x7d", .call "echo" [.str "now()"]]] := by rfl
  have hruns := @run_of_refragmented_and_resolving Unit Unit
  refine ⟨?_, (congrArg Prod.fst (hruns.2 echoing ⟨getAndEcho, (), ()⟩ _
    dispatchesScripts_echo)).trans heager⟩
  exact congrArg Prod.fst (hruns.1 echoing ⟨getAndEcho, (), ()⟩ _ _ rfl
    (.cons (.native (some nowForK) permits_getAndEcho_get rfl) (.nil _)))

end Switchboard.Service
