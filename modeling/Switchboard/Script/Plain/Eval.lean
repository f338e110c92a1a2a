import Switchboard.Script.Plain.Evaluation

/-!
# Evaluating plain scripts

An expression is evaluated in a scope of variables.  Functions see their parameters and
nothing else of their caller, and what they do to `this` is done to the receiver.  Every
step takes an operation, and every recursion takes from the fuel, so that evaluation is
total; running out of fuel is a fault of its own.

## Main definitions

* `Halt`: why an evaluation ends without a value.
* `Eval`: an evaluation with a scope of variables.
* `eval`, `evalBlock`, `invoke`: evaluation of expressions, blocks and calls.
* `Definition.evaluation`: the evaluation of a call from outside.
-/

namespace Switchboard.Script.Plain

/-- A variable, or a constant. -/
structure Variable where
  name : String
  constant : Bool
  value : Value

/-- Why an evaluation ends without a value. -/
inductive Halt where
  | fault (fault : Fault)
  /-- The loop around is left. -/
  | leave (value : Value)
  /-- The next turn of the loop around follows. -/
  | next
  /-- The function is left. -/
  | give (value : Value)

/-- An evaluation in a scope of variables, the latest first. -/
abbrev Eval := ExceptT Halt (StateT (List Variable) Evaluation)

/-- How many calls may lie inside one another. -/
def maxCallDepth : Nat := 64

namespace Eval

/-- An evaluation that ends with a fault. -/
def fail {α : Type} (fault : Fault) : Eval α :=
  throw (.fault fault)

/-- The outcome of a step that cannot change the scope. -/
def ofExcept {α : Type} : Except Fault α → Eval α
  | .ok a => pure a
  | .error fault => fail fault

def tick : Eval Unit := fun scope =>
  .operation fun _ => .done (.ok (), scope)

/-- The definition of a function, if there is one. -/
def lookUp (naming : Naming) (callee : Callee) : Eval (Option Definition) := fun scope =>
  .lookUp naming callee fun found => .done (.ok found, scope)

/-! ## Variables -/

/-- The variable of a name that was declared last. -/
def binding? (scope : List Variable) (name : String) : Option Variable :=
  scope.find? (·.name == name)

/-- The scope with a new value for the variable that was declared last. -/
def updateScope (name : String) (v : Value) : List Variable → List Variable
  | [] => []
  | x :: rest =>
    if x.name == name then { x with value := v } :: rest else x :: updateScope name v rest

def variableOf (name : String) : Eval Variable := fun scope =>
  match binding? scope name with
  | some x => .done (.ok x, scope)
  | none => .done (.error (.fault (.noVariable name)), scope)

/-- Give a variable a new value; a constant keeps its own. -/
def assign (name : String) (v : Value) : Eval Unit := fun scope =>
  match binding? scope name with
  | none => .done (.error (.fault (.noVariable name)), scope)
  | some x =>
    if x.constant then .done (.error (.fault (.constant name)), scope)
    else .done (.ok (), updateScope name v scope)

def declare (name : String) (constant : Bool) (v : Value) : Eval Unit := fun scope =>
  .done (.ok (), ⟨name, constant, v⟩ :: scope)

/-- An evaluation whose declarations are forgotten behind it. -/
def inScope {α : Type} (inner : Eval α) : Eval α := fun scope => do
  let (result, after) ← inner scope
  return (result, after.drop (after.length - scope.length))

/-- The body of a function, evaluated in a scope of its own, with what has become of
`this` in it. -/
def isolated (scope : List Variable) (body : Eval Value) : Eval (Value × Option Value) :=
  fun outer => do
    let (result, inner) ← body scope
    let this := (binding? inner "this").map (·.value)
    match result with
    | .ok v => return (.ok (v, this), outer)
    | .error (.give v) => return (.ok (v, this), outer)
    | .error (.leave v) => return (.ok (v, this), outer)
    | .error .next => return (.ok (.unit, this), outer)
    | .error (.fault fault) => return (.error (.fault fault), outer)

/-- A turn of a loop and the turns behind it. -/
def turn (body rest : Eval Value) : Eval Value := fun scope => do
  let (result, after) ← body scope
  match result with
  | .ok _ => rest after
  | .error .next => rest after
  | .error (.leave v) => return (.ok v, after)
  | .error halt => return (.error halt, after)

end Eval

/-- A variable, or the part of one at the end of a path. -/
structure Place where
  name : String
  path : List Part

namespace Place

def read (place : Place) : Eval Value := do
  let x ← Eval.variableOf place.name
  Eval.ofExcept (x.value.getAt place.path)

def write (place : Place) (new : Value) : Eval Unit := do
  let x ← Eval.variableOf place.name
  let v ← Eval.ofExcept (x.value.setAt new place.path)
  Eval.assign place.name v

end Place

open Eval

/-- The scope of a function's body. -/
def parameters (d : Definition) (args : List Value) (this : Option Variable) : List Variable :=
  (d.params.zip args).map (fun row => ⟨row.1, false, row.2⟩) ++ this.toList

mutual

/-- The value of an expression.  `depth` counts the calls that may still lie
inside this one. -/
def eval : Nat → Nat → Expr → Eval Value
  | 0, _, _ => fail .unfinished
  | fuel + 1, depth, e => do
    tick
    match e with
    | .unit => return .unit
    | .bool b => return .bool b
    | .int n => return .int n
    | .float x => return .float x
    | .char c => return .char c
    | .text s => return .text s
    | .var name => return (← variableOf name).value
    | .array items => return .array (← evalItems fuel depth items)
    | .map fields => return .map (Dict.ofList (← evalFields fuel depth fields)).entries
    | .not operand => ofExcept (← eval fuel depth operand).contrary
    | .neg operand => ofExcept (← eval fuel depth operand).negated
    | .binary operator left right =>
      let a ← eval fuel depth left
      let b ← eval fuel depth right
      ofExcept (operator.apply a b)
    | .both left right =>
      if ← ofExcept (← eval fuel depth left).asTest then
        return .bool (← ofExcept (← eval fuel depth right).asTest)
      else return .bool false
    | .either left right =>
      if ← ofExcept (← eval fuel depth left).asTest then return .bool true
      else return .bool (← ofExcept (← eval fuel depth right).asTest)
    | .index target position =>
      let v ← eval fuel depth target
      let p ← eval fuel depth position
      ofExcept (v.get (.position p))
    | .field target name =>
      ofExcept ((← eval fuel depth target).get (.field name))
    | .call name args =>
      let vs ← evalItems fuel depth args
      match ← lookUp .written ⟨name, args.length⟩ with
      | some d => return (← invoke fuel depth d vs none).1
      | none => applyBuiltin fuel depth name args vs
    | .method receiver name args =>
      match ← lookUp .written ⟨name, args.length⟩ with
      | some d => invokeOn fuel depth d receiver args
      | none =>
        let vs ← evalItems fuel depth (receiver :: args)
        applyBuiltin fuel depth name (receiver :: args) vs
    | .block body => inScope (evalBlock fuel depth body)
    | .cond test yes no =>
      if ← ofExcept (← eval fuel depth test).asTest then
        inScope (evalBlock fuel depth yes)
      else inScope (evalBlock fuel depth no)
    | .loop test body => evalLoop fuel depth test body
    | .each name items body =>
      match ← eval fuel depth items with
      | .array vs => evalEach fuel depth name body vs
      | _ => fail .notIterable
    | .declare name constant value =>
      let v ← eval fuel depth value
      declare name constant v
      return .unit
    | .assign place operator value =>
      let v ← eval fuel depth value
      match ← evalPlace fuel depth place with
      | none => fail .noPlace
      | some place =>
        match operator with
        | none => place.write v
        | some operator =>
          let old ← place.read
          place.write (← ofExcept (operator.update old v))
        return .unit
    | .leave value => throw (.leave (← eval fuel depth value))
    | .next => throw .next
    | .give value => throw (.give (← eval fuel depth value))
    | .throw value => fail (.thrown (← eval fuel depth value).plain)

def evalItems : Nat → Nat → List Expr → Eval (List Value)
  | 0, _, _ => fail .unfinished
  | _ + 1, _, [] => return []
  | fuel + 1, depth, e :: rest => do
    let v ← eval fuel depth e
    let vs ← evalItems fuel depth rest
    return v :: vs

def evalFields : Nat → Nat → List (String × Expr) → Eval (List (String × Value))
  | 0, _, _ => fail .unfinished
  | _ + 1, _, [] => return []
  | fuel + 1, depth, (name, e) :: rest => do
    let v ← eval fuel depth e
    let vs ← evalFields fuel depth rest
    return (name, v) :: vs

/-- The value of the last of several expressions. -/
def evalBlock : Nat → Nat → List Expr → Eval Value
  | 0, _, _ => fail .unfinished
  | _ + 1, _, [] => return .unit
  | fuel + 1, depth, [e] => eval fuel depth e
  | fuel + 1, depth, e :: rest => do
    let _ ← eval fuel depth e
    evalBlock fuel depth rest

/-- The place that an expression means, if it means one. -/
def evalPlace : Nat → Nat → Expr → Eval (Option Place)
  | 0, _, _ => fail .unfinished
  | fuel + 1, depth, e =>
    match e with
    | .var name => return some ⟨name, []⟩
    | .index target position => do
      match ← evalPlace fuel depth target with
      | none => return none
      | some place =>
        let v ← eval fuel depth position
        return some ⟨place.name, place.path ++ [.position v]⟩
    | .field target name => do
      match ← evalPlace fuel depth target with
      | none => return none
      | some place => return some ⟨place.name, place.path ++ [.field name]⟩
    | _ => return none

/-- A function that needs no definition, applied to arguments; one that changes
its first argument changes it where it stands. -/
def applyBuiltin : Nat → Nat → String → List Expr → List Value → Eval Value
  | 0, _, _, _, _ => fail .unfinished
  | fuel + 1, depth, name, args, vs =>
    match reflection? name vs with
    | some (.isDefined callee) => return .bool (← lookUp .computed callee).isSome
    | some (.apply name vs) => do
      match ← lookUp .computed ⟨name, vs.length⟩ with
      | some d => return (← invoke fuel depth d vs none).1
      | none => applyBuiltin fuel depth name [] vs
    | none =>
      match builtin? name vs, args with
      | none, _ => fail (.noFunction name (vs.map Value.argumentType))
      | some ⟨result, some changed⟩, first :: _ => do
        match ← evalPlace fuel depth first with
        | none => return result
        | some place =>
          place.write changed
          return result
      | some ⟨result, _⟩, _ => return result

/-- A function applied to arguments and, if called as a method, to `this`; the result, and
what has become of `this`. -/
def invoke : Nat → Nat → Definition → List Value → Option Variable → Eval (Value × Option Value)
  | 0, _, _, _, _ => fail .unfinished
  | _ + 1, 0, _, _, _ => fail .tooManyCalls
  | fuel + 1, depth + 1, d, vs, this =>
    isolated (parameters d vs this) (evalBlock fuel depth d.body)

/-- A function applied to a receiver, which it may change where that stands. -/
def invokeOn : Nat → Nat → Definition → Expr → List Expr → Eval Value
  | 0, _, _, _, _ => fail .unfinished
  | fuel + 1, depth, d, receiver, args => do
    let v ← eval fuel depth receiver
    let vs ← evalItems fuel depth args
    match ← evalPlace fuel depth receiver with
    | none => return (← invoke fuel depth d vs (some ⟨"this", false, v⟩)).1
    | some place =>
      let x ← variableOf place.name
      let (result, this) ← invoke fuel depth d vs (some ⟨"this", x.constant, v⟩)
      match this.filter fun _ => !x.constant with
      | some this =>
        place.write this
        return result
      | none => return result

/-- A block again and again while a test holds. -/
def evalLoop : Nat → Nat → Expr → List Expr → Eval Value
  | 0, _, _, _ => fail .unfinished
  | fuel + 1, depth, test, body => do
    tick
    if ← ofExcept (← eval fuel depth test).asTest then
      turn (inScope (evalBlock fuel depth body)) (evalLoop fuel depth test body)
    else return .unit

/-- A block for each of several values of a variable. -/
def evalEach : Nat → Nat → String → List Expr → List Value → Eval Value
  | 0, _, _, _, _ => fail .unfinished
  | _ + 1, _, _, _, [] => return .unit
  | fuel + 1, depth, name, body, v :: rest => do
    tick
    turn (inScope (do declare name false v; evalBlock fuel depth body))
      (evalEach fuel depth name body rest)

end

/-! ## Calls from outside -/

/-- More recursion than any call that ends takes. -/
def ampleFuel : Nat := 4611686018427387904

/-- How a function ends for the one who called it from outside. -/
def outcome : Except Halt (Value × Option Value) × List Variable → Except Fault Value
  | (.ok (v, _), _) => .ok v
  | (.error (.fault fault), _) => .error fault
  | (.error _, _) => .error .unfinished

/-- The evaluation of a call from outside. -/
def Definition.evaluation (d : Definition) (args : List Value) :
    Evaluation (Except Fault Value) :=
  (invoke ampleFuel maxCallDepth d args none []).bind fun ended => .done (outcome ended)

end Switchboard.Script.Plain
