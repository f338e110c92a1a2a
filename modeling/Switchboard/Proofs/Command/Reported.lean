import Switchboard.Command.Run
import Switchboard.Proofs.Call.Stopping
import Switchboard.Proofs.Registry.RoundTrip
import Switchboard.Proofs.Service.Conventions
import Switchboard.Proofs.Service.Outcome
import Switchboard.Script.Plain.Engine

/-!
# What the report of a call tells

The report of a call that has a result shows the call with the values of its keys.  The
values are those of an eager call that may use the fragments, whichever way the call was
bound: from the first key that means nothing on all of them are `null`.  A function for
lazy calls looks each of its keys up by itself and has no fragments.  So the report shows
what it found for a key if each key before means something and no fragment stands for
this one, and may show something else if not.

## Main definitions

* `Token.Untouched`: no fragment stands for a key.
* `Command.Loads`: what a call from the command line is made with.
* `Command.RanLazily`: a function of the stock for lazy calls answered a call.
* `Command.shown`: the arguments that the report of a call shows.

## Main statements

* `Command.runInvoke_eq_ok_iff`: which report a call from the command line has.
* `Command.report_of_lazy_call`: what the report shows for each key.
* `Command.not_forall_shown_eq_found`: it need not be what the function found.
-/

namespace Switchboard

/-! ## Keys that no fragment stands for -/

namespace Token

/-- A token is a text in single quotes, or nothing is registered under its key. -/
def Untouched (token : String) (fragments : Option Fragments) : Prop :=
  (∃ text, Encloses '\'' token text) ∨
    ∀ key text, LooksUp token key → ¬ Registers fragments key text

/-- If no fragment stands for a token, it means the same without fragments. -/
theorem resolve_of_untouched {token : String} {context : Json.Fields}
    {fragments : Option Fragments} (h : Untouched token fragments) :
    resolve token context fragments = resolve token context none := by
  by_cases hquoted : ∃ text, Encloses '\'' token text
  · obtain ⟨text, htext⟩ := hquoted
    rw [resolve_of_quoted htext, resolve_of_quoted htext]
  · have hnone := h.resolve_left hquoted
    rw [not_exists] at hquoted
    rw [resolve_of_unregistered hquoted fun text => hnone _ text (looksUp_iff.2 rfl),
      resolve_of_unregistered hquoted fun _ ⟨_, hnone, _⟩ => nomatch hnone]

end Token

/-! ## Calls of native functions -/

namespace Backend

/-- In a lazy call of a function of the stock, only one for lazy calls can run: those for
values take numbers and no object. -/
theorem lazy_of_picks_stock {call : Call} {context : Json.Fields} {fragments : Option Fragments}
    {ν : Type} {name : String} {row : Nat} {overload : Native.Overload ν}
    (h : Native.stock.Picks name (Binding.bind call context fragments .lazy).kinds row overload) :
    overload.convention = .lazy := by
  have hsuits : overload.Suits (.obj context :: call.keys.map .str) :=
    Native.Overload.suits_of_takes h.takes
  cases hconvention : overload.convention with
  | lazy => rfl
  | eager =>
    rcases Native.readsNumbers_of_suits h.mem hconvention hsuits with
      ⟨-, n, hargs, -⟩ | ⟨-, m, n, hargs, -⟩ <;> cases hargs

end Backend

/-! ## Calls from the command line -/

namespace Command

/-- What a call from the command line is made with: what the files hold, under the
settings that the flags have changed. -/
structure Loads (files : Files) (options : InvokeOptions) (settings : Settings)
    (registry : Registry) (request : Request) : Prop where
  settings : ∃ found, Inputs.optional (Inputs.settings files) options.settings = .ok found ∧
    effectiveSettings options (found.getD .standard) = settings
  registry : Inputs.registry files options.registry = .ok registry
  context : Inputs.context files options.context = .ok request.context
  fragments : Inputs.optional (Inputs.fragments files) options.fragments = .ok request.fragments
  text : options.text = request.text
  caller : options.caller = request.caller

/-- The call of a command line. -/
def ran (engine : Script.Engine) (settings : Settings) (registry : Registry) (request : Request) :
    Run CallError (Memory Unit engine.Program) :=
  (Service.embedding engine Native.stock settings).invoke request (.fresh engine registry ())

/-- The report of a call, by how it ended. -/
def reported (options : InvokeOptions) (registry : Registry) (request : Request) :
    Except CallError Json → Report
  | .ok v => accepted options registry request v
  | .error e => rejected e.failureClass e.message options.json

variable {engine : Script.Engine}

/-- A call from the command line is reported exactly if its files can be used. -/
theorem runInvoke_eq_ok_iff {files : Files} {options : InvokeOptions} {report : Report} :
    runInvoke engine files options = .ok report ↔ ∃ settings registry request,
      Loads files options settings registry request ∧
        report = reported options registry request
          (ran engine settings registry request).result := by
  have hreported : ∀ settings registry request,
      (match ((Service.embedding engine Native.stock settings).invoke request
          (.fresh engine registry ())).result with
        | .ok v => .ok (accepted options registry request v)
        | .error e => .ok (rejected e.failureClass e.message options.json) :
        Except Report Report) =
      .ok (reported options registry request (ran engine settings registry request).result) := by
    intro settings registry request
    unfold ran
    split <;> rename_i hresult <;> rw [hresult] <;> rfl
  simp only [runInvoke, bind_eq_ok_iff]
  constructor
  · rintro ⟨found, hsettings, registry, hregistry, context, hcontext, fragments, hfragments, h⟩
    refine ⟨_, registry, ⟨options.text, context, options.caller, fragments⟩,
      ⟨⟨found, hsettings, rfl⟩, hregistry, hcontext, hfragments, rfl, rfl⟩, ?_⟩
    exact (Except.ok.inj ((hreported _ _ _).symm.trans h)).symm
  · rintro ⟨settings, registry, ⟨text, context, caller, fragments⟩,
      ⟨⟨found, hsettings, rfl⟩, hregistry, hcontext, hfragments, rfl, rfl⟩, rfl⟩
    exact ⟨found, hsettings, registry, hregistry, context, hcontext, fragments, hfragments,
      hreported _ _ _⟩

/-- A function of the stock for lazy calls is all that ran in a call: it was handed a
request and gave a value. -/
def RanLazily {σ : Type} (call : Run CallError (Memory Unit σ)) (method : String)
    (handed : Native.Request) (v : Json) : Prop :=
  ∃ row overload args, Native.stock.rows[row]? = some overload ∧ overload.convention = .lazy ∧
    call.effects = [.native method row args] ∧ Native.Request.ofArgs args = .ok handed ∧
    (overload.run args ()).1 = .ok v

/-- A lazy call of a native function that has a result is answered by a function for lazy
calls, and that has the data context and the keys of the call as its request. -/
theorem ranLazily_of_result {settings : Settings} {registry : Registry} {request : Request}
    {call : Call} {entry : Entry} {v : Json} (hlazy : settings.resolution = .lazy)
    (hasks : Service.Asks registry request call entry) (hnative : entry.execution = .native)
    (hresult : (ran engine settings registry request).result = .ok v) :
    RanLazily (ran engine settings registry request) call.method
      ⟨request.context, call.keys.map .str⟩ v := by
  unfold ran at hresult ⊢
  rcases Service.admission_cases settings registry request with
    ⟨e, hrefused⟩ | ⟨call', entry', hpermits⟩
  · rw [Service.invoke_of_refused hrefused] at hresult
    cases hresult
  obtain ⟨rfl, rfl⟩ := hasks.unique hpermits.asks
  rw [Service.invoke_of_permits hpermits] at hresult ⊢
  simp only [Service.embedding, Backend.run, hnative, hlazy] at hresult ⊢
  rcases Backend.runNative_cases Native.stock
      (Binding.bind call request.context request.fragments .lazy) () with
    ⟨row, overload, hpicks, hrun⟩ | ⟨-, hrun⟩
  · rw [hrun] at hresult ⊢
    obtain ⟨w, hw, hchecked⟩ := bind_eq_ok_iff.1 hresult
    have hsettled := Backend.settle_eq_ok_iff.1 (mapError_eq_ok_iff.1 hw)
    obtain rfl : w = v := by
      rcases Service.checkResult_cases settings call.method entry w with
        ⟨-, hok⟩ | ⟨-, fault, -, herr⟩
      · exact Except.ok.inj (hok.symm.trans hchecked)
      · cases herr.symm.trans hchecked
    exact ⟨row, overload, _, hpicks.at_row, Backend.lazy_of_picks_stock hpicks, rfl, rfl, hsettled⟩
  · rw [hrun] at hresult
    cases hresult

/-- The arguments that the report of a call shows: the values of an eager call. -/
def shown (request : Request) (call : Call) : List String :=
  (Binding.values request.context request.fragments call.keys).map (Binding.renderValue "'")

/-- The report in JSON of a call that has a result. -/
def reportWith (request : Request) (registry : Registry) (call : Call) (v : Json) : Report :=
  printed (record [("result", .str "accepted"), ("expr", .str request.text),
    ("resolvedCall", .str (Binding.callText call.method (shown request call))),
    ("caller", request.caller.toJson), ("registryDigest", .str registry.digest), ("value", v)])

/-! ## Files that hold what was written -/

@[simp] theorem fromUTF8?_toUTF8 (text : String) : String.fromUTF8? text.toUTF8 = some text :=
  dif_pos text.isValidUTF8

section

variable {files : Files} {path : String} {v : Json}

theorem labelled_of_toUTF8 {text : String} (label : Option String)
    (h : files path = .ok text.toUTF8) : Inputs.labelled label files path = .ok text := by
  simp only [Inputs.labelled, Inputs.readText, h, fromUTF8?_toUTF8]

theorem registry_of_compact (h : files path = .ok v.compact.toUTF8)
    (hreadable : Json.Readable Json.maxDepth v) {registry : Registry}
    (hread : Registry.ofJson v.canonical = .ok registry) :
    Inputs.registry files path = .ok registry := by
  simp only [Inputs.registry, labelled_of_toUTF8 _ h, bind, Except.bind,
    Json.parse?_compact hreadable, hread]
  rfl

theorem context_of_compact (h : files path = .ok v.compact.toUTF8)
    (hreadable : Json.Readable Json.maxDepth v) {fields : Json.Fields}
    (hread : v.canonical = .obj fields) : Inputs.context files path = .ok fields := by
  simp only [Inputs.context, h, fromUTF8?_toUTF8, Option.bind_some, Json.parse?_compact hreadable,
    hread]

theorem fragments_of_compact (h : files path = .ok v.compact.toUTF8)
    (hreadable : Json.Readable Json.maxDepth v) {table : Fragments}
    (hread : Fragments.ofJson v = .ok table) : Inputs.fragments files path = .ok table := by
  simp only [Inputs.fragments, labelled_of_toUTF8 _ h, bind, Except.bind,
    Json.document?_compact hreadable, hread]
  rfl

end

/-- A registry that opens two functions of the stock to everyone. -/
def openStock : Registry :=
  Dict.ofList [("get", .native), ("isContain", .native)]

/-- A directory with that registry, a data context and a table of fragments. -/
def stockFiles (context fragments : Json) : Files := fun path =>
  if path = "registry.json" then .ok openStock.toJson.compact.toUTF8
  else if path = "context.json" then .ok context.compact.toUTF8
  else .ok fragments.compact.toUTF8

/-- A call in that directory, by a caller that nothing is known of. -/
def asking (text : String) (fragments : Option String) : InvokeOptions :=
  ⟨text, "registry.json", "context.json", none, fragments, .anonymous, false, false, true⟩

theorem registry_stockFiles (context fragments : Json) :
    Inputs.registry (stockFiles context fragments) "registry.json" = .ok openStock :=
  registry_of_compact rfl (Registry.readable_toJson (by decide) 124) rfl

theorem loads_stockFiles {context fragments : Json} {fields : Json.Fields} (text : String)
    (hreadable : Json.Readable Json.maxDepth context) (hcontext : context.canonical = .obj fields) :
    Loads (stockFiles context fragments) (asking text none) .standard openStock
      ⟨text, fields, .anonymous, none⟩ :=
  ⟨⟨none, rfl, rfl⟩, registry_stockFiles context fragments,
    context_of_compact rfl hreadable hcontext, rfl, rfl, rfl⟩

theorem loads_stockFiles_fragments {context fragments : Json} {fields : Json.Fields}
    {table : Fragments} (text : String) (hreadable : Json.Readable Json.maxDepth context)
    (hcontext : context.canonical = .obj fields)
    (hreadable' : Json.Readable Json.maxDepth fragments)
    (htable : Fragments.ofJson fragments = .ok table) :
    Loads (stockFiles context fragments) (asking text (some "raw.json")) .standard openStock
      ⟨text, fields, .anonymous, some table⟩ := by
  refine ⟨⟨none, rfl, rfl⟩, registry_stockFiles context fragments,
    context_of_compact rfl hreadable hcontext, ?_, rfl, rfl⟩
  have hfragments : Inputs.fragments (stockFiles context fragments) "raw.json" = .ok table :=
    fragments_of_compact rfl hreadable' htable
  simp only [asking, Inputs.optional, hfragments]
  rfl

/-! ## What is shown and what was found -/

/-- The report of a lazy call of a native function shows an argument for each key.  It is
`null` if a key before means nothing, and else what the key means with the fragments.  If
no key before means nothing and no fragment stands for the key, it is what the function
found for the key; it found something for each. -/
theorem report_of_lazy_call {files : Files} {options : InvokeOptions} {settings : Settings}
    {registry : Registry} {request : Request} {call : Call} {entry : Entry} {v : Json}
    (hjson : options.json = true) (hloads : Loads files options settings registry request)
    (hlazy : settings.resolution = .lazy) (hasks : Service.Asks registry request call entry)
    (hnative : entry.execution = .native)
    (hresult : (ran engine settings registry request).result = .ok v) :
    runInvoke engine files options = .ok (reportWith request registry call v) ∧
      (shown request call).length = call.keys.length ∧
      ∃ handed : Native.Request,
        RanLazily (ran engine settings registry request) call.method handed v ∧
        handed.keys.length = call.keys.length ∧
        ∀ (i : Nat) (key : String), call.keys[i]? = some key →
          (Binding.Stopped request.context request.fragments call.keys i →
            (shown request call)[i]? = some (Binding.renderValue "'" .null)) ∧
          (¬ Binding.Stopped request.context request.fragments call.keys i →
            (shown request call)[i]? = some (Binding.renderValue "'"
              (Token.resolve key request.context request.fragments))) ∧
          ∃ found, handed.value i = .ok found ∧
            (¬ Binding.Stopped request.context request.fragments call.keys i →
              Token.Untouched key request.fragments →
              (shown request call)[i]? = some (Binding.renderValue "'" found)) := by
  have haccepted : accepted options registry request v = reportWith request registry call v := by
    simp only [accepted, if_pos hjson, hasks.reads]
    rfl
  refine ⟨runInvoke_eq_ok_iff.2 ⟨settings, registry, request, hloads, ?_⟩,
    (List.length_map _).trans (Binding.length_values _ _ _), _,
    ranLazily_of_result hlazy hasks hnative hresult, List.length_map _, fun i key hkey => ?_⟩
  · rw [hresult, reported, haccepted]
  · obtain ⟨hi, rfl⟩ := List.getElem?_eq_some_iff.1 hkey
    obtain ⟨hnull, hmeans⟩ := @Binding.getElem?_values request.context request.fragments _ _ _ hkey
    rw [shown, List.getElem?_map]
    refine ⟨fun hstopped => by rw [hnull hstopped, Option.map_some],
      fun hstopped => by rw [hmeans hstopped, Option.map_some],
      _, (Native.Request.key_of_texts hi).2, fun hstopped huntouched => ?_⟩
    rw [hmeans hstopped, Option.map_some, Token.resolve_of_untouched huntouched]

section

open Script.Plain (plain)

/-- A call in that directory as a request. -/
def anonymously (text : String) (context : Json.Fields) (fragments : Option Fragments) : Request :=
  ⟨text, context, .anonymous, fragments⟩

def oneWord : Json.Fields :=
  [("word", .str "abc")]

/-- A call with a key for the word and a text in quotes, under which a fragment is
registered. -/
def isContainWord : Request :=
  anonymously "isContain(word,'b')" oneWord (some (Dict.ofList [("b", "c")]))

/-- The text in quotes is shown as it is, and that is what the function found. -/
theorem report_isContain_word :
    runInvoke plain (stockFiles (.obj oneWord) (.obj [("b", .str "c")]))
        (asking "isContain(word,'b')" (some "raw.json")) =
      .ok (reportWith isContainWord openStock
        ⟨"isContain(word,'b')", none, "isContain", ["word", "'b'"]⟩ (.bool true)) ∧
    shown isContainWord ⟨"isContain(word,'b')", none, "isContain", ["word", "'b'"]⟩ =
      ["'abc'", "'b'"] ∧
    ∃ handed found, RanLazily (ran plain .standard openStock isContainWord) "isContain" handed
        (.bool true) ∧ handed.value 1 = .ok found ∧ "'b'" = Binding.renderValue "'" found := by
  have hword : Json.Readable Json.maxDepth (.obj oneWord) :=
    .obj (List.forall_mem_singleton.2 (.str "abc"))
  have hfragments : Json.Readable Json.maxDepth (.obj [("b", .str "c")]) :=
    .obj (List.forall_mem_singleton.2 (.str "c"))
  have hloads : Loads (stockFiles (.obj oneWord) (.obj [("b", .str "c")]))
      (asking "isContain(word,'b')" (some "raw.json")) .standard openStock isContainWord :=
    loads_stockFiles_fragments _ hword rfl hfragments rfl
  have hasks : Service.Asks openStock isContainWord
      ⟨"isContain(word,'b')", none, "isContain", ["word", "'b'"]⟩ .native := ⟨by rfl, by rfl⟩
  have hresult : (ran plain .standard openStock isContainWord).result = .ok (.bool true) := by rfl
  obtain ⟨hreport, -, handed, hran, -, hkeys⟩ :=
    report_of_lazy_call rfl hloads rfl hasks rfl hresult
  obtain ⟨-, -, found, hfound, hshown⟩ := hkeys 1 "'b'" rfl
  have hmeans : ¬ Binding.Stopped oneWord isContainWord.fragments ["word", "'b'"] 1 := by
    rintro ⟨earlier, hmem, hnull⟩
    obtain rfl := List.mem_singleton.1 hmem
    cases hnull
  have hshows : shown isContainWord ⟨"isContain(word,'b')", none, "isContain", ["word", "'b'"]⟩ =
      ["'abc'", "'b'"] := by decide
  refine ⟨hreport, hshows, handed, found, hran, hfound, ?_⟩
  have hsame := hshown hmeans (Or.inl ⟨"b", by decide⟩)
  rw [hshows] at hsame
  exact Option.some.inj hsame

/-- Where a condition holds, the report of a lazy call of a native function shows for a key
what the function found for it. -/
def ShowsFoundWhere (Condition : Request → List String → Nat → Prop) : Prop :=
  ∀ (files : Files) (options : InvokeOptions) (settings : Settings) (registry : Registry)
    (request : Request) (call : Call) (entry : Entry) (handed : Native.Request) (v found : Json)
    (i : Nat), options.json = true → Loads files options settings registry request →
    settings.resolution = .lazy → Service.Asks registry request call entry →
    entry.execution = .native → (ran plain settings registry request).result = .ok v →
    RanLazily (ran plain settings registry request) call.method handed v →
    Condition request call.keys i → handed.value i = .ok found →
    (shown request call)[i]? = some (Binding.renderValue "'" found)

theorem ShowsFoundWhere.mono {Condition Condition' : Request → List String → Nat → Prop}
    (h : ShowsFoundWhere Condition')
    (himp : ∀ request keys i, Condition request keys i → Condition' request keys i) :
    ShowsFoundWhere Condition := by
  intro files options settings registry request call entry handed v found i hjson hloads hlazy
    hasks hnative hresult hran hcondition
  exact h files options settings registry request call entry handed v found i hjson hloads hlazy
    hasks hnative hresult hran (himp _ _ _ hcondition)

theorem ShowsFoundWhere.shown_eq {Condition : Request → List String → Nat → Prop}
    (h : ShowsFoundWhere Condition) {context fragments : Json} {text : String}
    {path : Option String} {request : Request} {call : Call} {v found : Json} {i : Nat}
    (hloads : Loads (stockFiles context fragments) (asking text path) .standard openStock request)
    (hasks : Service.Asks openStock request call .native)
    (hresult : (ran plain .standard openStock request).result = .ok v)
    (hcondition : Condition request call.keys i)
    (hfound : Native.Request.value ⟨request.context, call.keys.map .str⟩ i = .ok found) :
    (shown request call)[i]? = some (Binding.renderValue "'" found) :=
  h _ _ _ _ _ _ _ _ _ _ _ rfl hloads rfl hasks rfl hresult
    (ranLazily_of_result rfl hasks rfl hresult) hcondition hfound

/-- What the report shows need not be what the function found, neither without fragments
nor if each key before means something. -/
theorem not_forall_shown_eq_found :
    ¬ ShowsFoundWhere (fun _ _ _ => True) ∧
      ¬ ShowsFoundWhere (fun request _ _ => request.fragments = none) ∧
      ¬ ShowsFoundWhere fun request keys i =>
        ¬ Binding.Stopped request.context request.fragments keys i := by
  have hstopped : ¬ ShowsFoundWhere fun request _ _ => request.fragments = none := by
    intro h
    have hempty : Json.Readable Json.maxDepth (.obj []) := .obj fun _ hmem => nomatch hmem
    have hloads : Loads (stockFiles (.obj []) .null) (asking "isContain(missing,'b')" none)
        .standard openStock (anonymously "isContain(missing,'b')" [] none) :=
      loads_stockFiles _ hempty rfl
    have hasks : Service.Asks openStock (anonymously "isContain(missing,'b')" [] none)
        ⟨"isContain(missing,'b')", none, "isContain", ["missing", "'b'"]⟩ .native :=
      ⟨by rfl, by rfl⟩
    have hresult : (ran plain .standard openStock
        (anonymously "isContain(missing,'b')" [] none)).result = .ok (.bool false) := by rfl
    -- the function found `b`, though the key before it means nothing
    have hfound : Native.Request.value ⟨[], ["missing", "'b'"].map .str⟩ 1 = .ok (.str "b") := rfl
    exact absurd (h.shown_eq hloads hasks hresult rfl hfound) (by decide)
  have hregistered : ¬ ShowsFoundWhere fun request keys i =>
      ¬ Binding.Stopped request.context request.fragments keys i := by
    intro h
    have hn : Json.Readable Json.maxDepth (.obj [("n", .bool true)]) :=
      .obj (List.forall_mem_singleton.2 (.bool true))
    have hfragments : Json.Readable Json.maxDepth (.obj [("n", .str "m")]) :=
      .obj (List.forall_mem_singleton.2 (.str "m"))
    have hloads : Loads (stockFiles (.obj [("n", .bool true)]) (.obj [("n", .str "m")]))
        (asking "get(n)" (some "raw.json")) .standard openStock
        (anonymously "get(n)" [("n", .bool true)] (some (Dict.ofList [("n", "m")]))) :=
      loads_stockFiles_fragments _ hn rfl hfragments rfl
    have hasks : Service.Asks openStock
        (anonymously "get(n)" [("n", .bool true)] (some (Dict.ofList [("n", "m")])))
        ⟨"get(n)", none, "get", ["n"]⟩ .native := ⟨by rfl, by rfl⟩
    have hresult : (ran plain .standard openStock (anonymously "get(n)" [("n", .bool true)]
        (some (Dict.ofList [("n", "m")])))).result = .ok (.bool true) := by rfl
    -- the function found the field of the data context, and not the fragment
    have hfound : Native.Request.value ⟨[("n", .bool true)], ["n"].map .str⟩ 0 =
        .ok (.bool true) := rfl
    exact absurd (h.shown_eq hloads hasks hresult Binding.not_stopped_zero hfound) (by decide)
  exact ⟨fun h => hstopped (h.mono fun _ _ _ _ => trivial), hstopped, hregistered⟩

end

end Command

end Switchboard
