import Switchboard.Json.Mismatch
import Switchboard.Text.Blank

/-!
# Kinds of values

A closed set of kinds types the arguments of a call, selects among the
overloads of a native function, and names what a function returned.  A slot
takes its own kind only, except that the kind `any` takes every value.

## Main definitions

* `Kind.of v`: the kind of a value; `null` has none of its own and is `any`.
* `Kind.accepts slot actual`: whether a slot takes a value of a kind.
* `Kind.ofTypeName? name`: the kind that a declared type name means.
* `Declaration`: what a function is declared to return.
-/

namespace Switchboard

inductive Kind where
  | boolean
  | number
  | text
  | object
  | array
  /-- Any value; also the kind of an argument that has none. -/
  | any
deriving DecidableEq

namespace Kind

def of : Json → Kind
  | .null => any
  | .bool _ => boolean
  | .num _ => number
  | .str _ => text
  | .arr _ => array
  | .obj _ => object

/-- Whether a slot of a kind takes a value of a kind. -/
def accepts (slot actual : Kind) : Bool :=
  slot == any || slot == actual

/-- The name of a kind in signatures and diagnostics. -/
def typeName : Kind → String
  | boolean => "Boolean"
  | number => "Number"
  | text => "String"
  | object => "JSONObject"
  | array => "JSONArray"
  | any => "Object"

/-- The kinds under the tags that stand for them in JSON. -/
def tags : List (String × Kind) :=
  [("boolean", boolean), ("number", number), ("string", text), ("map", object),
   ("sequence", array), ("opaque", any)]

def tag : Kind → String
  | boolean => "boolean"
  | number => "number"
  | text => "string"
  | object => "map"
  | array => "sequence"
  | any => "opaque"

/-- A kind by its tag. -/
def ofJson : Json → Except Json.Mismatch Kind :=
  Json.asVariant tags

/-! ## Type names -/

/-- The part of a type name behind its last dot, without blanks around it. -/
def simpleName (name : String) : String :=
  String.ofList (Text.trimChars (name.toList.reverse.takeWhile (· != '.')).reverse)

def typeNames : Kind → List String
  | any => ["Object"]
  | boolean => ["Boolean", "boolean", "bool"]
  | number =>
    ["Number", "Integer", "Long", "Short", "Byte", "Double", "Float", "BigDecimal", "BigInteger",
     "int", "long", "short", "byte", "double", "float", "number"]
  | text => ["String", "CharSequence", "string"]
  | object => ["Map", "JSONObject", "object", "map"]
  | array => ["List", "Collection", "JSONArray", "array", "sequence"]

def all : List Kind :=
  [any, boolean, number, text, object, array]

/-- The kind that a type name means.  Only the part behind the last dot
counts, so a name may carry the package it is from. -/
def ofTypeName? (name : String) : Option Kind :=
  all.find? fun kind => kind.typeNames.contains (simpleName name)

end Kind

/-- What a function is declared to return. -/
inductive Declaration where
  /-- Nothing. -/
  | void
  /-- A value of a kind. -/
  | kind (kind : Kind)
deriving DecidableEq

namespace Declaration

/-- What a declared type name means; no name, a blank one and `void` mean
nothing is returned, and an unknown name means no declaration at all. -/
def ofName? : Option String → Option Declaration
  | none => some void
  | some name =>
    let name := Text.trim name
    if name = "" ∨ name = "void" ∨ name = "Void" then some void
    else (Kind.ofTypeName? name).map kind

/-- The name of a declaration in diagnostics. -/
def typeName : Declaration → String
  | void => "void"
  | kind k => k.typeName

end Declaration

end Switchboard
