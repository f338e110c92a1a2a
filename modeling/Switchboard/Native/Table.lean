import Switchboard.Call.Binding

/-!
# Native functions

A native function is registered under a name with the kinds of its parameters,
so one name can carry several overloads.  A function registered for *lazy*
calls takes the request object and keys, and is handed a view of them; one
registered for *eager* calls takes values.  Both stand in one table.

## Main definitions

* `Native.Fault`: the failure of a function itself.
* `Native.Request`: the view that a lazy function is handed.
* `Native.Overload`, `Native.Table`: functions and their table.
* `Native.Table.lookUp table name args`: the overload for given arguments.
-/

namespace Switchboard.Native

/-- The failure of a function, in its own words. -/
structure Fault where
  message : String
deriving DecidableEq

/-! ## Requests -/

/-- The arguments of a lazy call: the data context and the keys. -/
structure Request where
  context : Json.Fields
  keys : List Json

namespace Request

/-- The view of arguments whose first is an object. -/
def ofArgs : List Json → Except Fault Request
  | .obj context :: keys => .ok ⟨context, keys⟩
  | _ => .error ⟨"lazy native call must receive the request object as its first argument"⟩

def key (request : Request) (index : Nat) : Except Fault String :=
  match request.keys[index]? with
  | some (.str key) => .ok key
  | _ => .error ⟨"missing key argument #" ++ String.ofList (Nat.toDigits 10 index)⟩

/-- What the key at a position means in the data context. -/
def value (request : Request) (index : Nat) : Except Fault Json :=
  (request.key index).map fun key => Token.resolve key request.context none

end Request

/-! ## Overloads -/

variable {ν : Type}

/-- A native function with the kinds of its parameters.  What the functions of a table
remember is a `ν`. -/
structure Overload (ν : Type) where
  name : String
  params : List Kind
  /-- The way of handing over arguments that it was registered for. -/
  convention : Resolution
  run : List Json → ν → Except Fault Json × ν

/-- What remembers nothing, as a function beside others that may. -/
def stateless {α β : Type} (f : α → β) : α → ν → β × ν :=
  fun a memory => (f a, memory)

namespace Overload

/-- Whether the parameters take arguments of the given kinds. -/
def accepts (overload : Overload ν) (kinds : List Kind) : Bool :=
  overload.params.length == kinds.length &&
    (overload.params.zip kinds).all fun pair => pair.1.accepts pair.2

def signature (overload : Overload ν) : String :=
  Binding.typedSignature overload.name overload.params

/-- A function of values. -/
def eager (name : String) (params : List Kind) (run : List Json → ν → Except Fault Json × ν) :
    Overload ν :=
  ⟨name, params, .eager, run⟩

/-- A function of the request and a number of keys. -/
def lazy (name : String) (keys : Nat) (run : Request → ν → Except Fault Json × ν) :
    Overload ν :=
  ⟨name, .object :: List.replicate keys .text, .lazy, fun args memory =>
    match Request.ofArgs args with
    | .ok request => run request memory
    | .error fault => (.error fault, memory)⟩

end Overload

/-! ## Tables -/

/-- Overloads in the order in which they were registered. -/
structure Table (ν : Type) where
  rows : List (Overload ν)

inductive LookUp (ν : Type) where
  /-- An overload, and its place in the table. -/
  | found (row : Nat) (overload : Overload ν)
  /-- No overload of the name takes so many arguments. -/
  | noArity
  /-- Overloads of the name take so many arguments, but none takes these. -/
  | kindMismatch (candidates : List (Overload ν))

namespace Table

def empty : Table ν :=
  ⟨[]⟩

def register (table : Table ν) (overload : Overload ν) : Table ν :=
  ⟨table.rows ++ [overload]⟩

/-- The overloads of a name that take a number of arguments, with their places. -/
def candidates (table : Table ν) (name : String) (arity : Nat) : List (Overload ν × Nat) :=
  table.rows.zipIdx.filter fun row => row.1.name == name && row.1.params.length == arity

/-- The first overload of a name that takes the arguments. -/
def lookUp (table : Table ν) (name : String) (args : List Json) : LookUp ν :=
  let kinds := args.map Kind.of
  match table.candidates name kinds.length with
  | [] => .noArity
  | candidates =>
    match candidates.find? fun row => row.1.accepts kinds with
    | some (overload, row) => .found row overload
    | none => .kindMismatch (candidates.map Prod.fst)

end Table

end Switchboard.Native
