import Switchboard.Proofs.Script.Histories
import Switchboard.Script.Plain.Engine

/-!
# The plain engine keeps the laws

The plain engine does what an engine is taken to do.  Its evaluations are trees that are
finite along every branch, so each has an end, which `Evaluation.run` comes to.

## Main definitions

* `Expr.callees`: the functions that an expression calls by their names.
* `semantics`: what the programs and calls of the plain engine mean.
* `Evaluation.Within`: a tree that looks up by names only functions from among some.

## Main statements

* `keepsDefinitions`, `evaluatesCalls`, `callsByName`, `limitsOperations`: the laws.
-/

namespace Switchboard.Script.Plain

/-! ## The functions that scripts call -/

mutual

/-- The functions called by name in an expression. -/
def Expr.callees : Expr → List Callee
  | .unit | .bool _ | .int _ | .float _ | .char _ | .text _ | .var _ | .next => []
  | .array items => calleesOfAll items
  | .map fields => calleesOfFields fields
  | .not operand => operand.callees
  | .neg operand => operand.callees
  | .binary _ left right => left.callees ++ right.callees
  | .both left right => left.callees ++ right.callees
  | .either left right => left.callees ++ right.callees
  | .index target position => target.callees ++ position.callees
  | .field target _ => target.callees
  | .call name args => ⟨name, args.length⟩ :: calleesOfAll args
  | .method receiver name args =>
    ⟨name, args.length⟩ :: (receiver.callees ++ calleesOfAll args)
  | .block body => calleesOfAll body
  | .cond test yes no => test.callees ++ calleesOfAll yes ++ calleesOfAll no
  | .loop test body => test.callees ++ calleesOfAll body
  | .each _ items body => items.callees ++ calleesOfAll body
  | .declare _ _ value => value.callees
  | .assign place _ value => place.callees ++ value.callees
  | .leave value => value.callees
  | .give value => value.callees
  | .throw value => value.callees

/-- The functions called in expressions. -/
def calleesOfAll : List Expr → List Callee
  | [] => []
  | e :: rest => e.callees ++ calleesOfAll rest

/-- The functions called in the fields of a map. -/
def calleesOfFields : List (String × Expr) → List Callee
  | [] => []
  | field :: rest => calleesOfField field ++ calleesOfFields rest

/-- The functions called in a field of a map. -/
def calleesOfField : String × Expr → List Callee
  | (_, e) => e.callees

end

/-- The functions called in the body of a function. -/
def Definition.callees (d : Definition) : List Callee :=
  calleesOfAll d.body

/-! ## What programs and calls mean -/

/-- What a tree does next. -/
def Evaluation.move : Evaluation (Except Fault Value) →
    Move Definition (Evaluation (Except Fault Value)) Value
  | .done result => .ends (result.mapError Fault.message)
  | .operation next => .operation (next ()) Fault.tooManyOperations.message
  | .lookUp naming callee next => .lookUp naming callee next

/-- What the programs and the calls of the plain engine mean. -/
def semantics : Semantics plain where
  Definition := Definition
  definition? := Library.find?
  OnlyFunctions _ := True
  callees := Definition.callees
  limit limit := limit
  State := Evaluation (Except Fault Value)
  start := Definition.evaluation
  next := Evaluation.move
  missing name := (Fault.noEntry name).message
  unending := Fault.unfinished.message

theorem keepsDefinitions : semantics.KeepsDefinitions where
  definition?_empty _ := rfl
  definition?_functionsOnly _ _ := rfl
  definition?_merge := Library.find?_merge
  onlyFunctions_empty := trivial
  onlyFunctions_functionsOnly _ := trivial
  onlyFunctions_merge _ _ _ _ := trivial

theorem limitsOperations : semantics.LimitsOperations where
  limit_new := rfl
  limit_setMaxOperations _ _ := rfl
  compile_setMaxOperations _ _ := rfl

/-! ## Calls are evaluated -/

/-- A tree ends as its run does. -/
theorem ends_run (find? : Callee → Option Definition) (limit spent : Nat)
    (e : Evaluation (Except Fault Value)) :
    semantics.Ends find? limit ⟨spent, e⟩ ((e.run find? limit spent).mapError Fault.message) := by
  induction e generalizing spent with
  | done result => exact .last rfl
  | operation next ih =>
    by_cases hpaid : limit = 0 ∨ spent + 1 ≤ limit
    · rw [Evaluation.run, if_pos hpaid]
      exact .step (if_pos hpaid) (ih () (spent + 1))
    · rw [Evaluation.run, if_neg hpaid]
      exact .last (if_neg hpaid)
  | lookUp naming callee next ih => exact .step rfl (ih (find? callee) spent)

section

variable {library : Library} {name : String} {args : List Value}

theorem call_of_find?_eq_none (h : library.find? ⟨name, args.length⟩ = none) (limit : Nat) :
    call limit library name args = .error (.noEntry name) := by
  simp only [call, h]

theorem call_of_find? {d : Definition} (h : library.find? ⟨name, args.length⟩ = some d)
    (limit : Nat) :
    call limit library name args = (d.evaluation args).run library.find? limit 0 := by
  simp only [call, h]

end

theorem evaluatesCalls : semantics.EvaluatesCalls where
  call_of_none {limit library _ _} _ h :=
    congrArg (Except.mapError Fault.message) (call_of_find?_eq_none h limit)
  call_of_some {limit library name args d} _ h := by
    have hends := ends_run (Library.find? library) limit 0 (Definition.evaluation d args)
    exact (congrArg (Except.mapError Fault.message) (call_of_find? h limit)).trans
      (Semantics.outcome_of_ends hends).symm

/-! ## Calls by names -/

/-- A tree looks up, by the names in scripts, only functions from among some, as long as it is
given definitions that call only those. -/
def Evaluation.Within {α : Type} (P : Callee → Prop) : Evaluation α → Prop
  | .done _ => True
  | .operation next => (next ()).Within P
  | .lookUp naming callee next =>
    (naming = .written → P callee) ∧ (next none).Within P ∧
      ∀ d : Definition, (∀ inner ∈ d.callees, P inner) → (next (some d)).Within P

/-- What stays within some functions is confined to them. -/
theorem confined_within (P : Callee → Prop) : semantics.Confined P (Evaluation.Within P) where
  operation {state _ _} h hnext := by
    cases state <;> cases hnext
    exact h
  written {state _ _} h hnext := by
    cases state <;> cases hnext
    exact h.1 rfl
  missed {state _ _ _} h hnext := by
    cases state <;> cases hnext
    exact h.2.1
  found {state _ _ _ d} h hnext hd := by
    cases state <;> cases hnext
    exact h.2.2 d hd

theorem Evaluation.Within.bind {α β : Type} {P : Callee → Prop} {e : Evaluation α}
    {f : α → Evaluation β} (he : e.Within P) (hf : ∀ a, (f a).Within P) :
    (e.bind f).Within P := by
  induction e with
  | done a => exact hf a
  | operation next ih => exact ih () he
  | lookUp naming callee next ih =>
    exact ⟨he.1, ih none he.2.1, fun d hd => ih (some d) (he.2.2 d hd)⟩

namespace Eval

/-- An evaluation in a scope stays within some functions whatever the scope. -/
def Within {α : Type} (P : Callee → Prop) (x : Eval α) : Prop :=
  ∀ scope, Evaluation.Within P (x scope)

variable {α β : Type} {P : Callee → Prop} {x : Eval α}

theorem within_pure (a : α) : Within P (pure a : Eval α) :=
  fun _ => trivial

theorem within_throw (halt : Halt) : Within P (throw halt : Eval α) :=
  fun _ => trivial

theorem within_fail (fault : Fault) : Within P (fail fault : Eval α) :=
  fun _ => trivial

theorem Within.bind {f : α → Eval β} (hx : x.Within P) (hf : ∀ a, (f a).Within P) :
    (x >>= f).Within P := fun scope =>
  (hx scope).bind fun
    | (.ok a, after) => hf a after
    | (.error _, _) => trivial

theorem within_ofExcept (result : Except Fault α) : Within P (ofExcept result) := by
  cases result <;> exact fun _ => trivial

theorem within_tick : Within P tick :=
  fun _ => trivial

/-- What follows a look-up may go on with a definition that calls only the functions. -/
theorem within_lookUp_bind {naming : Naming} {callee : Callee} {f : Option Definition → Eval α}
    (hcallee : naming = .written → P callee) (hnone : (f none).Within P)
    (hsome : ∀ d : Definition, (∀ inner ∈ d.callees, P inner) → (f (some d)).Within P) :
    (lookUp naming callee >>= f).Within P :=
  fun scope => ⟨hcallee, hnone scope, fun d hd => hsome d hd scope⟩

theorem within_variableOf (name : String) : Within P (variableOf name) := fun scope => by
  unfold variableOf
  split <;> trivial

theorem within_assign (name : String) (v : Value) : Within P (assign name v) := fun scope => by
  unfold assign
  split
  · trivial
  · split <;> trivial

theorem within_declare (name : String) (constant : Bool) (v : Value) :
    Within P (declare name constant v) :=
  fun _ => trivial

theorem within_read (place : Place) : Within P place.read :=
  (within_variableOf _).bind fun _ => within_ofExcept _

theorem within_write (place : Place) (v : Value) : Within P (place.write v) :=
  (within_variableOf _).bind fun _ => (within_ofExcept _).bind fun _ => within_assign _ _

theorem Within.inScope (hx : x.Within P) : (inScope x).Within P := fun scope =>
  (hx scope).bind fun _ => trivial

theorem Within.isolated {body : Eval Value} (hbody : body.Within P) (scope : List Variable) :
    (isolated scope body).Within P := fun _ =>
  (hbody scope).bind fun
    | (.ok _, _) => trivial
    | (.error (.give _), _) => trivial
    | (.error (.leave _), _) => trivial
    | (.error .next, _) => trivial
    | (.error (.fault _), _) => trivial

theorem Within.turn {body rest : Eval Value} (hbody : body.Within P) (hrest : rest.Within P) :
    (turn body rest).Within P := fun scope =>
  (hbody scope).bind fun
    | (.ok _, after) => hrest after
    | (.error .next, after) => hrest after
    | (.error (.leave _), _) => trivial
    | (.error (.give _), _) => trivial
    | (.error (.fault _), _) => trivial

end Eval

open Eval

/-- All evaluators stay within some functions, with some fuel, wherever these are the only
ones called by name. -/
structure Within (P : Callee → Prop) (fuel : Nat) : Prop where
  eval : ∀ depth e, (∀ callee ∈ e.callees, P callee) → (eval fuel depth e).Within P
  items : ∀ depth items, (∀ callee ∈ calleesOfAll items, P callee) →
    (evalItems fuel depth items).Within P
  fields : ∀ depth fields, (∀ callee ∈ calleesOfFields fields, P callee) →
    (evalFields fuel depth fields).Within P
  block : ∀ depth body, (∀ callee ∈ calleesOfAll body, P callee) →
    (evalBlock fuel depth body).Within P
  place : ∀ depth e, (∀ callee ∈ e.callees, P callee) → (evalPlace fuel depth e).Within P
  builtin : ∀ depth name args vs, (∀ callee ∈ calleesOfAll args, P callee) →
    (applyBuiltin fuel depth name args vs).Within P
  invoke : ∀ depth d vs this, (∀ callee ∈ d.callees, P callee) →
    (invoke fuel depth d vs this).Within P
  invokeOn : ∀ depth d receiver args, (∀ callee ∈ d.callees, P callee) →
    (∀ callee ∈ receiver.callees, P callee) → (∀ callee ∈ calleesOfAll args, P callee) →
    (invokeOn fuel depth d receiver args).Within P
  loop : ∀ depth test body, (∀ callee ∈ test.callees, P callee) →
    (∀ callee ∈ calleesOfAll body, P callee) → (evalLoop fuel depth test body).Within P
  each : ∀ depth name body vs, (∀ callee ∈ calleesOfAll body, P callee) →
    (evalEach fuel depth name body vs).Within P

namespace Within

variable {P : Callee → Prop} {fuel : Nat}

theorem zero : Within P 0 where
  eval _ _ _ := by simpa only [Plain.eval] using within_fail _
  items _ _ _ := by simpa only [evalItems] using within_fail _
  fields _ _ _ := by simpa only [evalFields] using within_fail _
  block _ _ _ := by simpa only [evalBlock] using within_fail _
  place _ _ _ := by simpa only [evalPlace] using within_fail _
  builtin _ _ _ _ _ := by simpa only [applyBuiltin] using within_fail _
  invoke _ _ _ _ _ := by simpa only [Plain.invoke] using within_fail _
  invokeOn _ _ _ _ _ _ _ := by simpa only [Plain.invokeOn] using within_fail _
  loop _ _ _ _ _ := by simpa only [evalLoop] using within_fail _
  each _ _ _ _ _ := by simpa only [evalEach] using within_fail _

/-! ## One more unit of fuel -/

/-- The value of a test stays within the functions that the test calls. -/
theorem test (ih : Within P fuel) (depth : Nat) {e : Expr} {α : Type} {f : Bool → Eval α}
    (he : ∀ callee ∈ e.callees, P callee) (hf : ∀ b, (f b).Within P) :
    (do f (← ofExcept (← Plain.eval fuel depth e).asTest)).Within P :=
  (ih.eval depth e he).bind fun _ => (within_ofExcept _).bind hf

theorem eval_call (ih : Within P fuel) (depth : Nat) (name : String) (args : List Expr)
    (hcallees : ∀ callee ∈ (Expr.call name args).callees, P callee) :
    (Plain.eval (fuel + 1) depth (.call name args)).Within P := by
  simp only [Expr.callees, List.forall_mem_cons] at hcallees
  obtain ⟨hcallee, hargs⟩ := hcallees
  simp only [Plain.eval]
  refine within_tick.bind fun _ => (ih.items depth args hargs).bind fun vs =>
    within_lookUp_bind (fun _ => hcallee) (ih.builtin depth name args vs hargs) fun d hd => ?_
  exact (ih.invoke depth d vs none hd).bind fun _ => within_pure _

theorem eval_method (ih : Within P fuel) (depth : Nat) (receiver : Expr) (name : String)
    (args : List Expr)
    (hcallees : ∀ callee ∈ (Expr.method receiver name args).callees, P callee) :
    (Plain.eval (fuel + 1) depth (.method receiver name args)).Within P := by
  simp only [Expr.callees, List.forall_mem_cons, List.forall_mem_append] at hcallees
  obtain ⟨hcallee, hreceiver, hargs⟩ := hcallees
  have hall : ∀ callee ∈ calleesOfAll (receiver :: args), P callee := by
    simpa only [calleesOfAll, List.forall_mem_append] using ⟨hreceiver, hargs⟩
  simp only [Plain.eval]
  refine within_tick.bind fun _ => within_lookUp_bind (fun _ => hcallee) ?_ fun d hd =>
    ih.invokeOn depth d receiver args hd hreceiver hargs
  exact (ih.items depth _ hall).bind fun vs => ih.builtin depth name _ vs hall

theorem eval_assign (ih : Within P fuel) (depth : Nat) (place : Expr)
    (operator : Option Operator) (value : Expr)
    (hcallees : ∀ callee ∈ (Expr.assign place operator value).callees, P callee) :
    (Plain.eval (fuel + 1) depth (.assign place operator value)).Within P := by
  simp only [Expr.callees, List.forall_mem_append] at hcallees
  simp only [Plain.eval]
  refine within_tick.bind fun _ => (ih.eval depth value hcallees.2).bind fun v =>
    (ih.place depth place hcallees.1).bind fun found => ?_
  cases found with
  | none => exact within_fail _
  | some place =>
    cases operator with
    | none => exact (within_write place v).bind fun _ => within_pure _
    | some operator =>
      exact (within_read place).bind fun _ => (within_ofExcept _).bind fun _ =>
        (within_write place _).bind fun _ => within_pure _

theorem eval_succ (ih : Within P fuel) (depth : Nat) (e : Expr)
    (hcallees : ∀ callee ∈ e.callees, P callee) :
    (Plain.eval (fuel + 1) depth e).Within P := by
  cases e with
  | call name args => exact ih.eval_call depth name args hcallees
  | method receiver name args => exact ih.eval_method depth receiver name args hcallees
  | assign place operator value => exact ih.eval_assign depth place operator value hcallees
  | unit | bool _ | int _ | float _ | char _ | text _ =>
    simp only [Plain.eval]
    exact within_tick.bind fun _ => within_pure _
  | next =>
    simp only [Plain.eval]
    exact within_tick.bind fun _ => within_throw _
  | var name =>
    simp only [Plain.eval]
    exact within_tick.bind fun _ => (within_variableOf name).bind fun _ => within_pure _
  | array items =>
    simp only [Expr.callees] at hcallees
    simp only [Plain.eval]
    exact within_tick.bind fun _ => (ih.items depth items hcallees).bind fun _ => within_pure _
  | map fields =>
    simp only [Expr.callees] at hcallees
    simp only [Plain.eval]
    exact within_tick.bind fun _ => (ih.fields depth fields hcallees).bind fun _ => within_pure _
  | not operand | neg operand | field operand _ =>
    simp only [Expr.callees] at hcallees
    simp only [Plain.eval]
    exact within_tick.bind fun _ => (ih.eval depth operand hcallees).bind fun _ =>
      within_ofExcept _
  | leave operand | give operand =>
    simp only [Expr.callees] at hcallees
    simp only [Plain.eval]
    exact within_tick.bind fun _ => (ih.eval depth operand hcallees).bind fun _ => within_throw _
  | throw operand =>
    simp only [Expr.callees] at hcallees
    simp only [Plain.eval]
    exact within_tick.bind fun _ => (ih.eval depth operand hcallees).bind fun _ => within_fail _
  | declare name constant operand =>
    simp only [Expr.callees] at hcallees
    simp only [Plain.eval]
    exact within_tick.bind fun _ => (ih.eval depth operand hcallees).bind fun v =>
      (within_declare name constant v).bind fun _ => within_pure _
  | binary _ left right | index left right =>
    simp only [Expr.callees, List.forall_mem_append] at hcallees
    simp only [Plain.eval]
    exact within_tick.bind fun _ => (ih.eval depth left hcallees.1).bind fun _ =>
      (ih.eval depth right hcallees.2).bind fun _ => within_ofExcept _
  | both left right =>
    simp only [Expr.callees, List.forall_mem_append] at hcallees
    simp only [Plain.eval]
    refine within_tick.bind fun _ => ih.test depth hcallees.1 fun b => ?_
    cases b with
    | true => exact ih.test depth hcallees.2 fun _ => within_pure _
    | false => exact within_pure _
  | either left right =>
    simp only [Expr.callees, List.forall_mem_append] at hcallees
    simp only [Plain.eval]
    refine within_tick.bind fun _ => ih.test depth hcallees.1 fun b => ?_
    cases b with
    | true => exact within_pure _
    | false => exact ih.test depth hcallees.2 fun _ => within_pure _
  | block body =>
    simp only [Expr.callees] at hcallees
    simp only [Plain.eval]
    exact within_tick.bind fun _ => (ih.block depth body hcallees).inScope
  | cond test yes no =>
    simp only [Expr.callees, List.forall_mem_append] at hcallees
    obtain ⟨⟨htest, hyes⟩, hno⟩ := hcallees
    simp only [Plain.eval]
    refine within_tick.bind fun _ => ih.test depth htest fun b => ?_
    cases b with
    | true => exact (ih.block depth yes hyes).inScope
    | false => exact (ih.block depth no hno).inScope
  | loop test body =>
    simp only [Expr.callees, List.forall_mem_append] at hcallees
    simp only [Plain.eval]
    exact within_tick.bind fun _ => ih.loop depth test body hcallees.1 hcallees.2
  | each name items body =>
    simp only [Expr.callees, List.forall_mem_append] at hcallees
    simp only [Plain.eval]
    refine within_tick.bind fun _ => (ih.eval depth items hcallees.1).bind fun v => ?_
    cases v with
    | array vs => exact ih.each depth name body vs hcallees.2
    | _ => exact within_fail _

theorem items_succ (ih : Within P fuel) (depth : Nat) (items : List Expr)
    (hcallees : ∀ callee ∈ calleesOfAll items, P callee) :
    (evalItems (fuel + 1) depth items).Within P := by
  cases items with
  | nil => simpa only [evalItems] using within_pure _
  | cons e rest =>
    simp only [calleesOfAll, List.forall_mem_append] at hcallees
    simp only [evalItems]
    exact (ih.eval depth e hcallees.1).bind fun _ =>
      (ih.items depth rest hcallees.2).bind fun _ => within_pure _

theorem fields_succ (ih : Within P fuel) (depth : Nat) (fields : List (String × Expr))
    (hcallees : ∀ callee ∈ calleesOfFields fields, P callee) :
    (evalFields (fuel + 1) depth fields).Within P := by
  cases fields with
  | nil => simpa only [evalFields] using within_pure _
  | cons field rest =>
    obtain ⟨name, e⟩ := field
    simp only [calleesOfFields, calleesOfField, List.forall_mem_append] at hcallees
    simp only [evalFields]
    exact (ih.eval depth e hcallees.1).bind fun _ =>
      (ih.fields depth rest hcallees.2).bind fun _ => within_pure _

/-- A block ends with its last expression; the recursion tells it apart. -/
theorem block_succ (ih : Within P fuel) (depth : Nat) (body : List Expr)
    (hcallees : ∀ callee ∈ calleesOfAll body, P callee) :
    (evalBlock (fuel + 1) depth body).Within P := by
  match body with
  | [] => simpa only [evalBlock] using within_pure _
  | [e] =>
    simp only [calleesOfAll, List.append_nil] at hcallees
    simpa only [evalBlock] using ih.eval depth e hcallees
  | e :: second :: rest =>
    rw [calleesOfAll, List.forall_mem_append] at hcallees
    simp only [evalBlock]
    exact (ih.eval depth e hcallees.1).bind fun _ => ih.block depth _ hcallees.2

theorem place_succ (ih : Within P fuel) (depth : Nat) (e : Expr)
    (hcallees : ∀ callee ∈ e.callees, P callee) :
    (evalPlace (fuel + 1) depth e).Within P := by
  cases e with
  | index target position =>
    simp only [Expr.callees, List.forall_mem_append] at hcallees
    simp only [evalPlace]
    refine (ih.place depth target hcallees.1).bind fun found => ?_
    cases found with
    | none => exact within_pure _
    | some place => exact (ih.eval depth position hcallees.2).bind fun _ => within_pure _
  | field target name =>
    simp only [Expr.callees] at hcallees
    simp only [evalPlace]
    refine (ih.place depth target hcallees).bind fun found => ?_
    cases found with
    | none => exact within_pure _
    | some place => exact within_pure _
  | _ => simpa only [evalPlace] using within_pure _

/-- A function that is told which function to look up may look up any, as no name of it
stands in the script; one that changes its first argument looks at that again. -/
theorem builtin_succ (ih : Within P fuel) (depth : Nat) (name : String) (args : List Expr)
    (vs : List Value) (hcallees : ∀ callee ∈ calleesOfAll args, P callee) :
    (applyBuiltin (fuel + 1) depth name args vs).Within P := by
  unfold applyBuiltin
  split
  · exact within_lookUp_bind Naming.noConfusion (within_pure _) fun _ _ => within_pure _
  · rename_i function values _
    refine within_lookUp_bind Naming.noConfusion
      (ih.builtin depth function [] values (List.forall_mem_nil P)) fun d hd => ?_
    exact (ih.invoke depth d values none hd).bind fun _ => within_pure _
  · split
    · exact within_fail _
    · rename_i first rest _
      simp only [calleesOfAll, List.forall_mem_append] at hcallees
      refine (ih.place depth first hcallees.1).bind fun found => ?_
      cases found with
      | none => exact within_pure _
      | some place => exact (within_write place _).bind fun _ => within_pure _
    · exact within_pure _

theorem invoke_succ (ih : Within P fuel) (depth : Nat) (d : Definition) (vs : List Value)
    (this : Option Variable) (hcallees : ∀ callee ∈ d.callees, P callee) :
    (Plain.invoke (fuel + 1) depth d vs this).Within P := by
  cases depth with
  | zero => simpa only [Plain.invoke] using within_fail _
  | succ depth =>
    simp only [Plain.invoke]
    exact (ih.block depth d.body hcallees).isolated _

theorem invokeOn_succ (ih : Within P fuel) (depth : Nat) (d : Definition) (receiver : Expr)
    (args : List Expr) (hcallees : ∀ callee ∈ d.callees, P callee)
    (hreceiver : ∀ callee ∈ receiver.callees, P callee)
    (hargs : ∀ callee ∈ calleesOfAll args, P callee) :
    (Plain.invokeOn (fuel + 1) depth d receiver args).Within P := by
  simp only [Plain.invokeOn]
  refine (ih.eval depth receiver hreceiver).bind fun v => (ih.items depth args hargs).bind
    fun vs => (ih.place depth receiver hreceiver).bind fun found => ?_
  cases found with
  | none => exact (ih.invoke depth d vs _ hcallees).bind fun _ => within_pure _
  | some place =>
    refine (within_variableOf place.name).bind fun x =>
      (ih.invoke depth d vs _ hcallees).bind fun ended => ?_
    -- What has become of `this` is put back where the receiver stands.
    cases ended.2.filter fun _ => !x.constant with
    | none => exact within_pure _
    | some this => exact (within_write place this).bind fun _ => within_pure _

theorem loop_succ (ih : Within P fuel) (depth : Nat) (test : Expr) (body : List Expr)
    (htest : ∀ callee ∈ test.callees, P callee)
    (hbody : ∀ callee ∈ calleesOfAll body, P callee) :
    (evalLoop (fuel + 1) depth test body).Within P := by
  simp only [evalLoop]
  refine within_tick.bind fun _ => ih.test depth htest fun b => ?_
  cases b with
  | true => exact (ih.block depth body hbody).inScope.turn (ih.loop depth test body htest hbody)
  | false => exact within_pure _

theorem each_succ (ih : Within P fuel) (depth : Nat) (name : String) (body : List Expr)
    (vs : List Value) (hbody : ∀ callee ∈ calleesOfAll body, P callee) :
    (evalEach (fuel + 1) depth name body vs).Within P := by
  cases vs with
  | nil => simpa only [evalEach] using within_pure _
  | cons v rest =>
    simp only [evalEach]
    refine within_tick.bind fun _ => Eval.Within.turn (Eval.Within.inScope ?_)
      (ih.each depth name body rest hbody)
    exact (within_declare name false v).bind fun _ => ih.block depth body hbody

end Within

/-- Whatever the fuel, no evaluator looks up another function by a name in a script: by
induction on the fuel, for all evaluators at once. -/
theorem within (P : Callee → Prop) (fuel : Nat) : Within P fuel := by
  induction fuel with
  | zero => exact .zero
  | succ fuel ih =>
    exact {
      eval := ih.eval_succ
      items := ih.items_succ
      fields := ih.fields_succ
      block := ih.block_succ
      place := ih.place_succ
      builtin := ih.builtin_succ
      invoke := ih.invoke_succ
      invokeOn := ih.invokeOn_succ
      loop := ih.loop_succ
      each := ih.each_succ }

theorem callsByName : semantics.CallsByName where
  exists_confined P d args hd := by
    refine ⟨Evaluation.Within P, confined_within P, ?_⟩
    exact Evaluation.Within.bind ((within P ampleFuel).invoke maxCallDepth d args none hd [])
      fun _ => trivial

/-! ## What is looked up -/

/-- What a tree looks up along its run. -/
def Evaluation.lookUps {α : Type} (find? : Callee → Option Definition) (limit : Nat) :
    Nat → Evaluation α → List (Naming × Callee)
  | _, .done _ => []
  | spent, .operation next =>
    if limit = 0 ∨ spent + 1 ≤ limit then (next ()).lookUps find? limit (spent + 1) else []
  | spent, .lookUp naming callee next =>
    (naming, callee) :: (next (find? callee)).lookUps find? limit spent

theorem mem_lookUps_of_looksUp {find? : Callee → Option Definition} {limit : Nat}
    {point : semantics.Point} {naming : Naming} {callee : Callee}
    (h : semantics.LooksUp find? limit point naming callee) :
    (naming, callee) ∈ Evaluation.lookUps find? limit point.spent point.state := by
  obtain ⟨here, k, hreaches, hnext⟩ := h
  induction hreaches using Relation.ReflTransGen.head_induction_on with
  | refl =>
    obtain ⟨spent, e⟩ := here
    cases e <;> cases hnext
    exact List.mem_cons_self
  | @head point next hstep _ ih =>
    obtain ⟨spent, e⟩ := point
    cases e with
    | done result => cases hstep
    | operation k =>
      by_cases hpaid : limit = 0 ∨ spent + 1 ≤ limit
      · obtain rfl := Sum.inr.inj ((if_pos hpaid).symm.trans hstep)
        rw [Evaluation.lookUps, if_pos hpaid]
        exact ih
      · exact nomatch (if_neg hpaid).symm.trans hstep
    | lookUp naming callee k =>
      cases hstep
      exact List.mem_cons_of_mem _ ih

def lookUpsOf (limit : Nat) (library : Library) (name : String) (args : List Value) :
    List (Naming × Callee) :=
  (.written, ⟨name, args.length⟩) ::
    match library.find? ⟨name, args.length⟩ with
    | some d => (d.evaluation args).lookUps library.find? limit 0
    | none => []

theorem mem_lookUpsOf {limit : Nat} {library : Library} {name : String} {args : List Value}
    {naming : Naming} {callee : Callee}
    (h : semantics.CallLooksUp limit library name args naming callee) :
    (naming, callee) ∈ lookUpsOf limit library name args := by
  unfold lookUpsOf
  cases h with
  | entry => exact List.mem_cons_self
  | @inner d _ _ hfound hlooks =>
    have hd : library.find? ⟨name, args.length⟩ = some d := hfound
    rw [hd]
    exact List.mem_cons_of_mem _ (mem_lookUps_of_looksUp hlooks)

@[simp] theorem mapM_toValue (args : List Json) :
    args.mapM plain.toValue = .ok (args.map Value.ofJson) := by
  induction args with
  | nil => rfl
  | cons v rest ih =>
    rw [List.mapM_cons, ih]
    rfl

/-! ## The functions of a script -/

/-- The plain engine with two hundred operations for a call. -/
def modest : plain.Config :=
  plain.setMaxOperations 200 plain.new

/-- The functions that a script defines, none if it has a fault. -/
def definitionsOf (source : String) : List Definition :=
  (definitions? source).getD []

theorem compile_of_eq_none {source : String} (h : definitions? source = none)
    (config : plain.Config) : plain.compile config source = .error "Syntax error" := by
  simp only [plain, compile, h]

theorem compile_of_eq_some {source : String} {definitions : List Definition}
    (h : definitions? source = some definitions) (config : plain.Config) :
    plain.compile config source = .ok (⟨definitions⟩ : Library) := by
  simp only [plain, compile, h]

@[simp] theorem inScript?_eq (config : plain.Config) (source : String) (callee : Callee) :
    semantics.inScript? config source callee = Library.find? ⟨definitionsOf source⟩ callee := by
  unfold definitionsOf
  cases hdefinitions : definitions? source with
  | none => exact Semantics.inScript?_of_error (compile_of_eq_none hdefinitions config) callee
  | some definitions =>
    exact Semantics.inScript?_of_ok (compile_of_eq_some hdefinitions config) callee

@[simp] theorem defines_iff {config : plain.Config} {source : String} {callee : Callee} :
    semantics.Defines config source callee ↔
      (definitionsOf source).any (·.callee == callee) = true := by
  have hfind : (definitionsOf source).any (·.callee == callee) = true ↔
      ∃ d, Library.find? ⟨definitionsOf source⟩ callee = some d := by
    rw [List.any_eq_true, ← List.find?_isSome, Option.isSome_iff_exists]
    rfl
  rw [hfind, ← inScript?_eq config]
  rfl

theorem defines_iff_exists {config : plain.Config} {source : String} {callee : Callee} :
    semantics.Defines config source callee ↔ ∃ d ∈ definitionsOf source, d.callee = callee := by
  simp only [defines_iff, List.any_eq_true, beq_iff_eq]

theorem mem_of_inScript? {config : plain.Config} {source : String} {callee : Callee}
    {d : Definition} (h : semantics.inScript? config source callee = some d) :
    d ∈ definitionsOf source := by
  rw [inScript?_eq] at h
  exact List.mem_of_find?_eq_some h

end Switchboard.Script.Plain
