import Switchboard.Proofs.Checks
import Switchboard.Proofs.Script.Semantics
import Switchboard.Script.Host

/-!
# Hosts behind a history

A host that embeds an engine keeps nothing of what it was asked but the definitions of the
scripts that it loaded, and of those, for each function, the last one.  Whatever it is asked
from then on is answered by the definitions that it has.

## Main definitions

* `Semantics.inScript?`: the definition that a script has of a function.
* `Semantics.latest?`: the definition in the last of several scripts.
* `Host.Operation`, `Host.replay`: what a host is asked, one after another.
* `Host.answers`: the answers to that.

## Main statements

* `Host.definition?_replay`: what is defined behind a history.
* `Host.answers_congr`: a host answers by the definitions that it has.
-/

namespace Switchboard.Script

variable {engine : Engine}

namespace Semantics

variable (sem : Semantics engine)

/-- The definition that a script has of a function; a script that does not compile has
none. -/
def inScript? (config : engine.Config) (source : String) (callee : Callee) :
    Option sem.Definition :=
  match engine.compile config source with
  | .ok script => sem.definition? script callee
  | .error _ => none

def Defines (config : engine.Config) (source : String) (callee : Callee) : Prop :=
  ∃ d, sem.inScript? config source callee = some d

/-- The definition of a function in the last of several scripts that defines it. -/
def latest? (config : engine.Config) (sources : List String) (callee : Callee) :
    Option sem.Definition :=
  sources.reverse.findSome? fun source => sem.inScript? config source callee

/-- Programs that have nothing but functions, and the same ones. -/
structure Alike (program other : engine.Program) : Prop where
  left : sem.OnlyFunctions program
  right : sem.OnlyFunctions other
  definition?_eq : ∀ callee, sem.definition? program callee = sem.definition? other callee

variable {sem} {config : engine.Config}

theorem inScript?_of_ok {source : String} {script : engine.Program}
    (h : engine.compile config source = .ok script) (callee : Callee) :
    sem.inScript? config source callee = sem.definition? script callee := by
  simp only [inScript?, h]

theorem inScript?_of_error {source words : String}
    (h : engine.compile config source = .error words) (callee : Callee) :
    sem.inScript? config source callee = none := by
  simp only [inScript?, h]

@[simp] theorem latest?_nil (callee : Callee) : sem.latest? config [] callee = none :=
  rfl

@[simp] theorem latest?_cons (source : String) (rest : List String) (callee : Callee) :
    sem.latest? config (source :: rest) callee =
      (sem.latest? config rest callee).or (sem.inScript? config source callee) := by
  simp [latest?, List.findSome?_append]

@[simp] theorem not_defines_iff {source : String} {callee : Callee} :
    ¬ sem.Defines config source callee ↔ sem.inScript? config source callee = none := by
  rw [Defines, ← Option.ne_none_iff_exists', ne_eq, Classical.not_not]

@[simp] theorem latest?_eq_none_iff {sources : List String} {callee : Callee} :
    sem.latest? config sources callee = none ↔
      ∀ source ∈ sources, ¬ sem.Defines config source callee := by
  simp only [latest?, List.findSome?_eq_none_iff, not_defines_iff, List.mem_reverse]

end Semantics

namespace Host

variable {σ : Type}

inductive Operation where
  | load (source : String)
  | call (name : String) (args : List Json)
  | loadThenCall (source name : String) (args : List Json)

/-- The script that a host is asked to load. -/
def Operation.source? : Operation → Option String
  | load source => some source
  | call .. => none
  | loadThenCall source .. => some source

/-- The state behind an operation, however it ends. -/
def perform (host : Host σ) (s : σ) : Operation → σ
  | .load source => (host.load source s).2
  | .call name args => (host.call name args s).2
  | .loadThenCall source name args => (host.loadThenCall source name args s).2

/-- The state behind operations, one after another. -/
def replay (host : Host σ) (history : List Operation) (s : σ) : σ :=
  history.foldl host.perform s

/-- How a host answers what it is asked. -/
inductive Answer where
  | loaded (result : Except String Unit)
  | called (result : Except String Json)

def answer (host : Host σ) (s : σ) : Operation → Answer
  | .load source => .loaded (host.load source s).1
  | .call name args => .called (host.call name args s).1
  | .loadThenCall source name args => .called (host.loadThenCall source name args s).1

/-- The answers to operations, one after another. -/
def answers (host : Host σ) : List Operation → σ → List Answer
  | [], _ => []
  | op :: rest, s => host.answer s op :: host.answers rest (host.perform s op)

/-- The scripts that were to be loaded in a history. -/
def scripts (history : List Operation) : List String :=
  history.filterMap Operation.source?

@[simp] theorem replay_nil (host : Host σ) (s : σ) : host.replay [] s = s :=
  rfl

@[simp] theorem replay_cons (host : Host σ) (op : Operation) (rest : List Operation) (s : σ) :
    host.replay (op :: rest) s = host.replay rest (host.perform s op) :=
  rfl

@[simp] theorem replay_append (host : Host σ) (before after : List Operation) (s : σ) :
    host.replay (before ++ after) s = host.replay after (host.replay before s) :=
  List.foldl_append

@[simp] theorem scripts_nil : scripts [] = [] :=
  rfl

@[simp] theorem scripts_cons (op : Operation) (rest : List Operation) :
    scripts (op :: rest) = op.source?.toList ++ scripts rest := by
  cases op <;> rfl

/-! ## The host that embeds an engine -/

section

variable {sem : Semantics engine} {config : engine.Config} {program other : engine.Program}

/-- Of an operation, the program keeps what a load of its script leaves there. -/
theorem perform_embedding (config : engine.Config) (program : engine.Program) (op : Operation) :
    (embedding engine config).perform program op =
      op.source?.elim program fun source => ((embedding engine config).load source program).2 := by
  cases op with
  | load source => rfl
  | call name args => rfl
  | loadThenCall source name args =>
    simp only [perform, loadThenCall, Operation.source?, Option.elim_some]
    split <;> rename_i hload <;> rw [hload]
    rfl

/-- What is left behind depends on the engine by its loads only. -/
theorem replay_congr {rich : engine.Config}
    (h : (embedding engine rich).load = (embedding engine config).load)
    (history : List Operation) (program : engine.Program) :
    (embedding engine rich).replay history program =
      (embedding engine config).replay history program := by
  induction history generalizing program with
  | nil => rfl
  | cons op rest ih => simp [perform_embedding, h, ih]

/-- A function is looked for in the script loaded last, then in the others. -/
theorem definition?_load (hkeeps : sem.KeepsDefinitions) (source : String)
    (program : engine.Program) (callee : Callee) :
    sem.definition? ((embedding engine config).load source program).2 callee =
      (sem.inScript? config source callee).or (sem.definition? program callee) := by
  cases hcompile : engine.compile config source with
  | error words =>
    rw [Semantics.inScript?_of_error hcompile]
    simp only [embedding, hcompile, Option.none_or]
  | ok script =>
    rw [Semantics.inScript?_of_ok hcompile]
    simp only [embedding, hcompile, hkeeps.definition?_merge, hkeeps.definition?_functionsOnly]

theorem onlyFunctions_load (hkeeps : sem.KeepsDefinitions) (source : String)
    (h : sem.OnlyFunctions program) :
    sem.OnlyFunctions ((embedding engine config).load source program).2 := by
  simp only [embedding]
  cases engine.compile config source with
  | error words => exact h
  | ok script => exact hkeeps.onlyFunctions_merge _ _ h (hkeeps.onlyFunctions_functionsOnly script)

/-- One operation puts the definitions of its script, if it has one, in front. -/
theorem definition?_perform (hkeeps : sem.KeepsDefinitions) (program : engine.Program)
    (op : Operation) (callee : Callee) :
    sem.definition? ((embedding engine config).perform program op) callee =
      (sem.latest? config op.source?.toList callee).or (sem.definition? program callee) := by
  rw [perform_embedding]
  cases op.source? with
  | none => rfl
  | some source => simp [definition?_load hkeeps]

theorem onlyFunctions_perform (hkeeps : sem.KeepsDefinitions) (op : Operation)
    (h : sem.OnlyFunctions program) :
    sem.OnlyFunctions ((embedding engine config).perform program op) := by
  rw [perform_embedding]
  cases op.source? with
  | none => exact h
  | some source => exact onlyFunctions_load hkeeps source h

/-- Behind a history, the last definition of a function is there, and where there is none
what was there before. -/
theorem definition?_replay (hkeeps : sem.KeepsDefinitions) (history : List Operation)
    (program : engine.Program) (callee : Callee) :
    sem.definition? ((embedding engine config).replay history program) callee =
      (sem.latest? config (scripts history) callee).or (sem.definition? program callee) := by
  induction history generalizing program with
  | nil => rfl
  | cons op rest ih =>
    rw [replay_cons, ih, definition?_perform hkeeps, scripts_cons, ← Option.or_assoc]
    cases op.source? <;> simp

theorem onlyFunctions_replay (hkeeps : sem.KeepsDefinitions) (history : List Operation)
    (h : sem.OnlyFunctions program) :
    sem.OnlyFunctions ((embedding engine config).replay history program) := by
  induction history generalizing program with
  | nil => exact h
  | cons op rest ih => exact ih (onlyFunctions_perform hkeeps op h)

/-! ## Answers -/

theorem length_of_mapM_eq_ok {α β ε : Type} {f : α → Except ε β} {as : List α} {bs : List β}
    (h : as.mapM f = .ok bs) : bs.length = as.length := by
  induction as generalizing bs with
  | nil =>
    cases h
    rfl
  | cons a rest ih =>
    rw [List.mapM_cons] at h
    cases ha : f a with
    | error e =>
      rw [ha] at h
      cases h
    | ok b =>
      cases hrest : rest.mapM f with
      | error e =>
        rw [ha, hrest] at h
        cases h
      | ok others =>
        rw [ha, hrest] at h
        cases h
        rw [List.length_cons, List.length_cons, ih hrest]

theorem alike_load (hkeeps : sem.KeepsDefinitions) (h : sem.Alike program other)
    (source : String) :
    sem.Alike ((embedding engine config).load source program).2
      ((embedding engine config).load source other).2 where
  left := onlyFunctions_load hkeeps source h.left
  right := onlyFunctions_load hkeeps source h.right
  definition?_eq callee := by
    rw [definition?_load hkeeps, definition?_load hkeeps, h.definition?_eq]

theorem alike_perform (hkeeps : sem.KeepsDefinitions) (h : sem.Alike program other)
    (op : Operation) :
    sem.Alike ((embedding engine config).perform program op)
      ((embedding engine config).perform other op) := by
  rw [perform_embedding, perform_embedding]
  cases op.source? with
  | none => exact h
  | some source => exact alike_load hkeeps h source

/-- A call is answered alike where the engine ends it alike. -/
theorem call_embedding_congr {name : String} {args : List Json}
    (h : ∀ values, args.mapM engine.toValue = .ok values →
      engine.call config program name values = engine.call config other name values) :
    ((embedding engine config).call name args program).1 =
      ((embedding engine config).call name args other).1 := by
  simp only [embedding]
  cases hvalues : args.mapM engine.toValue with
  | error words => rfl
  | ok values => simp only [mapError_ok, bind, Except.bind, h values hvalues]

/-- A load fails or not whatever was loaded before. -/
theorem load_embedding_result (config : engine.Config) (source : String)
    (program other : engine.Program) :
    ((embedding engine config).load source program).1 =
      ((embedding engine config).load source other).1 := by
  simp only [embedding]
  cases engine.compile config source <;> rfl

/-- A call behind a load is answered alike where it is behind the loads. -/
theorem loadThenCall_embedding_congr {source name : String} {args : List Json}
    (h : (∃ script, engine.compile config source = .ok script) →
      ((embedding engine config).call name args
          ((embedding engine config).load source program).2).1 =
        ((embedding engine config).call name args
          ((embedding engine config).load source other).2).1) :
    ((embedding engine config).loadThenCall source name args program).1 =
      ((embedding engine config).loadThenCall source name args other).1 := by
  cases hcompile : engine.compile config source with
  | error words => simp [loadThenCall, embedding, hcompile]
  | ok script => simpa [loadThenCall, embedding, hcompile] using h ⟨script, hcompile⟩

section

variable (hkeeps : sem.KeepsDefinitions) (hevaluates : sem.EvaluatesCalls)
include hevaluates

theorem call_of_alike (h : sem.Alike program other) (name : String) (args : List Json) :
    ((embedding engine config).call name args program).1 =
      ((embedding engine config).call name args other).1 :=
  call_embedding_congr fun _ _ =>
    Semantics.call_congr hevaluates h.left h.right fun _ callee _ => h.definition?_eq callee

include hkeeps

theorem answer_congr (h : sem.Alike program other) (op : Operation) :
    (embedding engine config).answer program op = (embedding engine config).answer other op := by
  cases op with
  | load source => exact congrArg Answer.loaded (load_embedding_result config source program other)
  | call name args => exact congrArg Answer.called (call_of_alike hevaluates h name args)
  | loadThenCall source name args =>
    refine congrArg Answer.called (loadThenCall_embedding_congr fun _ => ?_)
    exact call_of_alike hevaluates (alike_load hkeeps h source) name args

/-- Hosts with the same definitions give the same answers from then on. -/
theorem answers_congr (h : sem.Alike program other) (later : List Operation) :
    (embedding engine config).answers later program =
      (embedding engine config).answers later other := by
  induction later generalizing program other with
  | nil => rfl
  | cons op rest ih =>
    rw [answers, answers, answer_congr hkeeps hevaluates h op, ih (alike_perform hkeeps h op)]

end

end

end Host

end Switchboard.Script
