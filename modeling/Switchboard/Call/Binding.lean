import Switchboard.Call.Basic
import Switchboard.Call.Token
import Switchboard.Kind

/-!
# Calls with their arguments

There are two ways to hand arguments over.  Bound *eagerly* a call has the
value of every key.  Bound *lazily* it has the data context and the keys as
they are written, for the function to look up itself.

## Main definitions

* `Resolution`: the two ways.
* `Binding.values keys context fragments`: the values of the keys, up to the
  first that is `null`.
* `Binding.bind`: a call with its arguments.
* `Binding.render`: the call as a text again.
-/

namespace Switchboard

/-- How the arguments of a call are handed over. -/
inductive Resolution where
  /-- As values. -/
  | eager
  /-- As the data context and the keys. -/
  | lazy
deriving DecidableEq

namespace Resolution

def name : Resolution → String
  | eager => "eager"
  | lazy => "lazy"

/-- A way to hand over arguments, by its name. -/
def ofJson : Json → Except Json.Mismatch Resolution :=
  Json.asVariant [("eager", eager), ("lazy", lazy)]

end Resolution

structure Binding where
  call : Call
  resolution : Resolution
  args : List Json

namespace Binding

/-- The values of keys in order.  From the first that is `null` on, every value
is `null`. -/
def values (context : Json.Fields) (fragments : Option Fragments) : List String → List Json
  | [] => []
  | key :: rest =>
    let v := Token.resolve key context fragments
    if v.isNull then .null :: rest.map fun _ => .null
    else v :: values context fragments rest

/-- There is a value for every key. -/
@[simp] theorem length_values (context : Json.Fields) (fragments : Option Fragments)
    (keys : List String) :
    (values context fragments keys).length = keys.length := by
  induction keys with
  | nil => rfl
  | cons key rest ih =>
    simp only [values]
    split <;> simp [ih]

/-- A call with its arguments handed over one way or the other. -/
def bind (call : Call) (context : Json.Fields) (fragments : Option Fragments) :
    Resolution → Binding
  | .eager => ⟨call, .eager, values context fragments call.keys⟩
  | .lazy => ⟨call, .lazy, .obj context :: call.keys.map .str⟩

/-- A database call, which may name a schema and always has values. -/
def readSql (text : String) (context : Json.Fields) (fragments : Option Fragments) :
    Except Malformed Binding :=
  (Call.read .sql text).map fun call => bind call context fragments .eager

def kinds (b : Binding) : List Kind :=
  b.args.map Kind.of

/-- The signature of a function that takes values of the given kinds. -/
def typedSignature (method : String) (kinds : List Kind) : String :=
  method ++ "(" ++ ", ".intercalate (kinds.map Kind.typeName) ++ ")"

/-- The signature that a call asks for. -/
def signature (b : Binding) : String :=
  match b.resolution with
  | .lazy => b.call.signature
  | .eager => typedSignature b.call.method b.kinds

/-! ## Rendering -/

/-- A value as an argument: truth values and numbers bare, all else in quotes. -/
def renderValue (quote : String) : Json → String
  | .bool b => (Json.bool b).compact
  | .num n => (Json.num n).compact
  | .str s => quote ++ s ++ quote
  | v => quote ++ v.compact ++ quote

/-- A call of a method with the given arguments. -/
def callText (method : String) (args : List String) : String :=
  method ++ "(" ++ ",".intercalate args ++ ")"

/-- The call with its values as arguments.  The schema is left out. -/
def renderValues (b : Binding) (quote : String) : String :=
  callText b.call.method (b.args.map (renderValue quote))

/-- The call with its keys as arguments, each in quotes.  The schema is left
out. -/
def renderKeys (b : Binding) (quote : String) : String :=
  callText b.call.method (b.call.keys.map fun key => quote ++ key ++ quote)

/-! ## JSON -/

def callJson (call : Call) : Json :=
  .obj [("expr", .str call.text), ("schema", (call.schema.map Json.str).getD .null),
    ("method", .str call.method), ("rawKeys", Json.texts call.keys)]

def toJson (b : Binding) : Json :=
  .obj [("call", callJson b.call), ("resolution", .str b.resolution.name),
    ("args", .arr (b.args.map fun v => .obj [("value", v), ("kind", .str (Kind.of v).tag)]))]

end Binding

end Switchboard
