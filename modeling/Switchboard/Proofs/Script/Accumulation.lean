import Switchboard.Proofs.Script.Histories
import Switchboard.Proofs.Script.Plain

/-!
# What loads leave behind

All that a host which embeds an engine keeps of its history is the definitions that were
loaded, and of these, for each function, the last one.  So a script with a fault, a call, and
a script whose functions are all defined again later can be left out of a history, and nothing
that is asked behind it is answered in another way.

## Main definitions

* `Semantics.DefinedLast`: a definition of a function from the last script that defines it.
* `Semantics.resultOf`: what comes of a definition that is called.
* `Host.Condenses`: a history without operations that leave nothing behind.

## Main statements

* `Host.Condenses.latest?_eq`: the last definitions are those of the whole history.
* `Host.lastWins_embedding`: what a history leaves behind, and what of it does not matter.
-/

namespace Switchboard.Script

variable {engine : Engine}

namespace Semantics

variable (sem : Semantics engine)

/-! ## The last definitions -/

/-- A definition of a function stands in one of several scripts, and no script behind that
one defines the function. -/
def DefinedLast (config : engine.Config) (sources : List String) (callee : Callee)
    (d : sem.Definition) : Prop :=
  ∃ before source after, sources = before ++ source :: after ∧
    sem.inScript? config source callee = some d ∧
    ∀ later ∈ after, ¬ sem.Defines config later callee

/-- What comes of a definition that is called with arguments, where functions are looked up in
a program. -/
noncomputable def resultOf (config : engine.Config) (program : engine.Program)
    (d : sem.Definition) (args : List Json) : Except String Json := do
  let values ← (args.mapM engine.toValue).mapError ("argument conversion failed: " ++ ·)
  let result ← sem.outcome (sem.definition? program) (sem.limit config) (sem.start d values)
  (engine.ofValue result).mapError ("result conversion failed: " ++ ·)

/-- What comes of arguments for a function that is not there. -/
def resultOfMissing (name : String) (args : List Json) : Except String Json := do
  let _ ← (args.mapM engine.toValue).mapError ("argument conversion failed: " ++ ·)
  .error (sem.missing name)

variable {sem} {config : engine.Config} {callee : Callee} {d : sem.Definition}

@[simp] theorem latest?_eq_some_iff {sources : List String} :
    sem.latest? config sources callee = some d ↔ sem.DefinedLast config sources callee d := by
  simp only [latest?, List.findSome?_eq_some_iff, ← not_defines_iff]
  constructor
  · rintro ⟨after, source, before, hsources, hd, hlater⟩
    refine ⟨before.reverse, source, after.reverse, ?_, hd, fun later hmem =>
      hlater later (List.mem_reverse.1 hmem)⟩
    rw [← List.reverse_reverse sources, hsources]
    simp
  · rintro ⟨before, source, after, rfl, hd, hlater⟩
    exact ⟨after.reverse, source, before.reverse, by simp, hd, fun later hmem =>
      hlater later (List.mem_reverse.1 hmem)⟩

/-- A function has a last definition exactly if some script defines it. -/
theorem exists_definedLast_iff {sources : List String} :
    (∃ d, sem.DefinedLast config sources callee d) ↔
      ∃ source ∈ sources, sem.Defines config source callee := by
  simp only [← latest?_eq_some_iff, ← Option.ne_none_iff_exists', ne_eq, latest?_eq_none_iff,
    Classical.not_forall, Classical.not_not, exists_prop]

end Semantics

namespace Host

variable {sem : Semantics engine} {config : engine.Config}

/-! ## Histories -/

variable (sem config) in
/-- An operation that leaves nothing behind if others follow it: a call, a script with a
fault, and a script whose functions are all defined again. -/
inductive Superfluous (rest : List Operation) : Operation → Prop
  | call (name : String) (args : List Json) : Superfluous rest (.call name args)
  | failed {op : Operation} {source words : String} (hsource : op.source? = some source)
      (hfault : engine.compile config source = .error words) : Superfluous rest op
  | overridden {op : Operation} {source : String} (hsource : op.source? = some source)
      (hagain : ∀ callee, sem.Defines config source callee →
        ∃ later ∈ scripts rest, sem.Defines config later callee) : Superfluous rest op

variable (sem config) in
/-- The second history is the first without operations that leave nothing behind there. -/
inductive Condenses : List Operation → List Operation → Prop
  | nil : Condenses [] []
  | keep {rest rest' : List Operation} (op : Operation) (h : Condenses rest rest') :
      Condenses (op :: rest) (op :: rest')
  | drop {op : Operation} {rest rest' : List Operation} (hop : Superfluous sem config rest op)
      (h : Condenses rest rest') : Condenses (op :: rest) rest'

/-- What is superfluous holds none of the last definitions. -/
theorem Superfluous.latest?_eq {op : Operation} {rest : List Operation}
    (h : Superfluous sem config rest op) (callee : Callee) :
    sem.latest? config (scripts (op :: rest)) callee =
      sem.latest? config (scripts rest) callee := by
  cases h with
  | call name args => rfl
  | failed hsource hfault => simp [hsource, Semantics.inScript?_of_error hfault]
  | @overridden _ source hsource hagain =>
    simp only [scripts_cons, hsource, Option.toList_some, List.singleton_append,
      Semantics.latest?_cons]
    by_cases hdefines : sem.Defines config source callee
    · obtain ⟨d, hlast⟩ := Semantics.exists_definedLast_iff.2 (hagain callee hdefines)
      rw [Semantics.latest?_eq_some_iff.2 hlast]
      rfl
    · rw [Semantics.not_defines_iff.1 hdefines, Option.or_none]

/-- Without superfluous operations a history has the same last definitions. -/
theorem Condenses.latest?_eq {history history' : List Operation}
    (h : Condenses sem config history history') (callee : Callee) :
    sem.latest? config (scripts history) callee =
      sem.latest? config (scripts history') callee := by
  induction h with
  | nil => rfl
  | keep op h ih => cases hsource : op.source? <;> simp [hsource, ih]
  | drop hop h ih => rw [hop.latest?_eq, ih]

/-- Scripts that define different functions can be loaded in either order. -/
theorem latest?_swap {source other : String}
    (h : ∀ callee, sem.Defines config source callee → ¬ sem.Defines config other callee)
    (callee : Callee) :
    sem.latest? config [source, other] callee = sem.latest? config [other, source] callee := by
  by_cases hdefines : sem.Defines config source callee
  · simp [Semantics.not_defines_iff.1 (h callee hdefines)]
  · simp [Semantics.not_defines_iff.1 hdefines]

/-- Behind a history from the start, what is defined is the last definitions. -/
theorem definition?_replay_empty (hkeeps : sem.KeepsDefinitions) (history : List Operation)
    (callee : Callee) :
    sem.definition? ((embedding engine config).replay history engine.empty) callee =
      sem.latest? config (scripts history) callee := by
  rw [definition?_replay hkeeps, hkeeps.definition?_empty, Option.or_none]

/-- Histories that leave the same last definitions leave hosts that answer alike. -/
theorem answers_replay_congr (hkeeps : sem.KeepsDefinitions) (hevaluates : sem.EvaluatesCalls)
    {history history' : List Operation}
    (h : ∀ callee, sem.latest? config (scripts history) callee =
      sem.latest? config (scripts history') callee)
    {program : engine.Program} (hprogram : sem.OnlyFunctions program) (later : List Operation) :
    (embedding engine config).answers later ((embedding engine config).replay history program) =
      (embedding engine config).answers later
        ((embedding engine config).replay history' program) := by
  refine answers_congr hkeeps hevaluates ⟨onlyFunctions_replay hkeeps history hprogram,
    onlyFunctions_replay hkeeps history' hprogram, fun callee => ?_⟩ later
  rw [definition?_replay hkeeps, definition?_replay hkeeps, h]

/-- To load a script again is answered like the load before it, and nothing changes. -/
theorem answers_load_again (hkeeps : sem.KeepsDefinitions) (hevaluates : sem.EvaluatesCalls)
    {program : engine.Program} (hprogram : sem.OnlyFunctions program) (source : String)
    (later : List Operation) :
    (embedding engine config).answers (.load source :: later)
        ((embedding engine config).replay [.load source] program) =
      (embedding engine config).answers (.load source :: later) program := by
  have htwice : ∀ callee, sem.latest? config (scripts [.load source, .load source]) callee =
      sem.latest? config (scripts [.load source]) callee := fun callee => by
    simp [Operation.source?, Option.or_self]
  have hlater := answers_replay_congr hkeeps hevaluates htwice hprogram later
  rw [answers, answers]
  exact congrArg₂ List.cons (congrArg Answer.loaded (load_embedding_result ..)) hlater

section

variable (hevaluates : sem.EvaluatesCalls) {program : engine.Program}
  (hprogram : sem.OnlyFunctions program) {name : String} {args : List Json}
include hevaluates hprogram

/-- A call of a function that is there comes to what comes of its definition. -/
theorem call_of_defined {d : sem.Definition}
    (h : sem.definition? program ⟨name, args.length⟩ = some d) :
    ((embedding engine config).call name args program).1 =
      sem.resultOf config program d args := by
  simp only [embedding, Semantics.resultOf]
  cases hvalues : args.mapM engine.toValue with
  | error words => rfl
  | ok values =>
    have hlength : values.length = args.length := length_of_mapM_eq_ok hvalues
    simp only [mapError_ok, bind, Except.bind]
    rw [hevaluates.call_of_some hprogram (hlength ▸ h)]

theorem call_of_missing (h : sem.definition? program ⟨name, args.length⟩ = none) :
    ((embedding engine config).call name args program).1 = sem.resultOfMissing name args := by
  simp only [embedding, Semantics.resultOfMissing]
  cases hvalues : args.mapM engine.toValue with
  | error words => rfl
  | ok values =>
    have hlength : values.length = args.length := length_of_mapM_eq_ok hvalues
    simp only [mapError_ok, bind, Except.bind]
    rw [hevaluates.call_of_none hprogram (hlength ▸ h)]

end

/-- Behind a history a function is found exactly if a script of it defines the function,
and then the definition that was loaded last is run.  Calls, loads that fail and loads
of nothing but functions that are loaded again can be left out of a history, and nothing
behind it is answered in another way.  To load a script twice in a row is to load it once,
and two scripts that define different functions can be loaded in either order. -/
theorem lastWins_embedding (hkeeps : sem.KeepsDefinitions) (hevaluates : sem.EvaluatesCalls)
    (config : engine.Config) :
    (∀ (history : List Operation) (name : String) (args : List Json),
      let program := (embedding engine config).replay history engine.empty
      (∀ d, sem.definition? program ⟨name, args.length⟩ = some d ↔
        sem.DefinedLast config (scripts history) ⟨name, args.length⟩ d) ∧
      ((∃ d, sem.DefinedLast config (scripts history) ⟨name, args.length⟩ d) ↔
        ∃ source ∈ scripts history, sem.Defines config source ⟨name, args.length⟩) ∧
      (∀ d, sem.DefinedLast config (scripts history) ⟨name, args.length⟩ d →
        ((embedding engine config).call name args program).1 =
          sem.resultOf config program d args) ∧
      ((¬ ∃ d, sem.DefinedLast config (scripts history) ⟨name, args.length⟩ d) →
        ((embedding engine config).call name args program).1 =
          sem.resultOfMissing name args)) ∧
    (∀ history history' later : List Operation, Condenses sem config history history' →
      (embedding engine config).answers later
          ((embedding engine config).replay history engine.empty) =
        (embedding engine config).answers later
          ((embedding engine config).replay history' engine.empty)) ∧
    (∀ (before : List Operation) (source : String) (later : List Operation),
      (embedding engine config).answers (.load source :: later)
          ((embedding engine config).replay (before ++ [.load source]) engine.empty) =
        (embedding engine config).answers (.load source :: later)
          ((embedding engine config).replay before engine.empty)) ∧
    ∀ (before : List Operation) (source other : String) (later : List Operation),
      (∀ callee, sem.Defines config source callee → ¬ sem.Defines config other callee) →
      (embedding engine config).answers later
          ((embedding engine config).replay (before ++ [.load source, .load other])
            engine.empty) =
        (embedding engine config).answers later
          ((embedding engine config).replay (before ++ [.load other, .load source])
            engine.empty) := by
  have hfunctions : ∀ history, sem.OnlyFunctions
      ((embedding engine config).replay history engine.empty) := fun history =>
    onlyFunctions_replay hkeeps history hkeeps.onlyFunctions_empty
  refine ⟨fun history name args => ?_, fun history history' later h => ?_,
    fun before source later => ?_, fun before source other later h => ?_⟩
  · have hfind := @definition?_replay_empty _ sem config hkeeps history ⟨name, args.length⟩
    refine ⟨fun d => ?_, Semantics.exists_definedLast_iff, fun d hlast => ?_, fun hnone => ?_⟩
    · simp [hfind]
    · exact call_of_defined hevaluates (hfunctions history)
        (hfind.trans (Semantics.latest?_eq_some_iff.2 hlast))
    · have hmissing : sem.latest? config (scripts history) ⟨name, args.length⟩ = none :=
        Option.eq_none_iff_forall_ne_some.2 fun d hd =>
          hnone ⟨d, Semantics.latest?_eq_some_iff.1 hd⟩
      exact call_of_missing hevaluates (hfunctions history) (hfind.trans hmissing)
  · exact answers_replay_congr hkeeps hevaluates h.latest?_eq hkeeps.onlyFunctions_empty later
  · rw [replay_append]
    exact answers_load_again hkeeps hevaluates (hfunctions before) source later
  · rw [replay_append, replay_append]
    exact @answers_replay_congr _ sem config hkeeps hevaluates [.load source, .load other]
      [.load other, .load source] (latest?_swap h) _ (hfunctions before) later

/-- Loads of a function that is defined again, with a load in vain and a call between. -/
def redefining : List Operation :=
  [.load "fn size(xs) \x7b 0 \x7d", .load "fn size(", .call "size" [.null],
    .load "fn size(xs) \x7b xs.len() \x7d fn half(x) \x7b x / 2 \x7d"]

section

open Plain (plain semantics modest definitionsOf)

/-- Only the last load shows, and a function of it is not found with another number of
arguments. -/
theorem lastWins_embedding_redefining :
    (∃ d, semantics.DefinedLast modest (scripts redefining) ⟨"size", 1⟩ d ∧
      ((embedding plain modest).call "size" [.arr [.null]]
          ((embedding plain modest).replay redefining plain.empty)).1 =
        semantics.resultOf modest ((embedding plain modest).replay redefining plain.empty) d
          [.arr [.null]]) ∧
      ((embedding plain modest).call "half" []
          ((embedding plain modest).replay redefining plain.empty)).1 =
        semantics.resultOfMissing "half" [] ∧
      (Condenses semantics modest redefining (redefining.drop 3) ∧ ∀ later,
        (embedding plain modest).answers later
            ((embedding plain modest).replay redefining plain.empty) =
          (embedding plain modest).answers later
            ((embedding plain modest).replay (redefining.drop 3) plain.empty)) ∧
      ∀ later,
        (embedding plain modest).answers later ((embedding plain modest).replay
            [.load "fn one() \x7b 1 \x7d", .load "fn one(x) \x7b x \x7d"] plain.empty) =
          (embedding plain modest).answers later ((embedding plain modest).replay
            [.load "fn one(x) \x7b x \x7d", .load "fn one() \x7b 1 \x7d"] plain.empty) := by
  obtain ⟨hcalls, hcondenses, -, hswap⟩ :=
    lastWins_embedding Plain.keepsDefinitions Plain.evaluatesCalls modest
  have hagain : ∀ d ∈ definitionsOf "fn size(xs) \x7b 0 \x7d",
      ∃ later ∈ scripts (redefining.drop 1),
        (definitionsOf later).any (·.callee == d.callee) = true := by decide +kernel
  have hapart : ∀ d ∈ definitionsOf "fn one() \x7b 1 \x7d",
      (definitionsOf "fn one(x) \x7b x \x7d").any (·.callee == d.callee) = false := by
    decide +kernel
  have hredefining : Condenses semantics modest redefining (redefining.drop 3) := by
    refine .drop (.overridden rfl fun callee hdefines => ?_) <|
      .drop (.failed rfl (Plain.compile_of_eq_none (Option.isNone_iff_eq_none.1 ?_) modest)) <|
        .drop (.call "size" [.null]) <| .keep _ .nil
    · obtain ⟨d, hmem, rfl⟩ := Plain.defines_iff_exists.1 hdefines
      obtain ⟨later, hlater, hany⟩ := hagain d hmem
      exact ⟨later, hlater, Plain.defines_iff.2 hany⟩
    · decide +kernel
  obtain ⟨-, hdefined, hanswer, -⟩ := hcalls redefining "size" [.arr [.null]]
  obtain ⟨-, hmissing, -, hnone⟩ := hcalls redefining "half" []
  have hsize : ∃ source ∈ scripts redefining,
      (definitionsOf source).any (·.callee == ⟨"size", 1⟩) = true := by decide +kernel
  have hhalf : ∀ source ∈ scripts redefining,
      (definitionsOf source).any (·.callee == ⟨"half", 0⟩) = false := by decide +kernel
  obtain ⟨source, hsource, hany⟩ := hsize
  obtain ⟨d, hlast⟩ := hdefined.2 ⟨source, hsource, Plain.defines_iff.2 hany⟩
  refine ⟨⟨d, hlast, hanswer d hlast⟩, hnone fun hlast => ?_,
    ⟨hredefining, fun later => hcondenses _ _ later hredefining⟩,
    fun later => hswap [] _ _ later fun callee hdefines hother => ?_⟩
  · obtain ⟨source, hsource, hdefines⟩ := hmissing.1 hlast
    exact Bool.false_ne_true ((hhalf source hsource).symm.trans (Plain.defines_iff.1 hdefines))
  · obtain ⟨d, hmem, rfl⟩ := Plain.defines_iff_exists.1 hdefines
    exact Bool.false_ne_true ((hapart d hmem).symm.trans (Plain.defines_iff.1 hother))

end

end Host

end Switchboard.Script
