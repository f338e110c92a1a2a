import Switchboard.Registry.Basic

/-!
# Reading registries

A registry is an object with one row for each function, or a document that
holds such an object under `functions` and may say what it is.  A way of
running is a name or a number, the methods of callers are a list or one text
with commas, and absent fields have defaults.

## Main definitions

* `Entry.ofJson`: the entry that a row is.
* `Registry.ofJson`: the registry that a value is.
* `Registry.Fault`: why a value is no registry.
-/

namespace Switchboard

/-! ## Fields of an entry -/

namespace Execution

/-- The way of running that a name means. -/
def ofName (name : String) : Execution :=
  if name = "native" then native else if name = "script" then script else unsupported name

/-- The way of running that a number means. -/
def ofCode (code : Int) : Execution :=
  if code = 0 then native
  else if code = 1 then script
  else unsupported (String.ofList (Decimal.intChars code))

/-- A way of running by name or number. -/
def ofJson : Json → Except Json.Mismatch Execution
  | .str name => .ok (ofName name)
  | .num (.int code) =>
    if Decimal.isInt64 code then .ok (ofCode code) else .error (.noReading "KindRepr")
  | _ => .error (.noReading "KindRepr")

end Execution

namespace Entry

/-- The set of listed methods, trimmed and without blank ones; none if nothing
is left. -/
def methodSet (listed : List String) : Option TextSet :=
  let set := TextSet.ofList ((listed.map Text.trim).filter fun method => !method.isEmpty)
  if set.isEmpty then none else some set

/-- The methods in one text with commas. -/
def splitMethods (joined : String) : List String :=
  (Text.pieces ',' joined.toList).map String.ofList

/-- The methods of callers: a list of texts, one text with commas, or `null`. -/
def readMethods : Json → Except Json.Mismatch (Option TextSet)
  | .null => .ok none
  | .str joined => .ok (methodSet (splitMethods joined))
  | .arr items =>
    match items.mapM Json.str? with
    | some listed => .ok (methodSet listed)
    | none => .error (.noReading "MethodsRepr")
  | _ => .error (.noReading "MethodsRepr")

/-- A text that may be left out. -/
def readText : Json → Except Json.Mismatch (Option String) :=
  Json.optional Json.asText

/-- An entry from the fields of a row; the first fault is that of the first
field by name. -/
def ofFields (fields : Json.Fields) : Except Json.Mismatch Entry := do
  let methods ← Json.fieldOr fields "allowedCallerMethods" none readMethods
  let returns ← Json.fieldOr fields "declaredReturnType" none readText
  let execution ← Json.fieldOr fields "executionKind" none
    fun v => (Execution.ofJson v).map some
  let minVersion ← Json.fieldOr fields "minVersion" 0 Json.asInt64
  let tag ← Json.fieldOr fields "requiredTag" none readText
  let source ← Json.fieldOr fields "scriptSource" none readText
  match execution with
  | some execution => return ⟨execution, minVersion, tag, methods, returns, source⟩
  | none => throw (.missingField "executionKind")

/-- An entry from an array of the fields in order. -/
def ofItems (items : List Json) : Except Json.Mismatch Entry := do
  let execution ← Json.itemOr items 0 none fun v => (Execution.ofJson v).map some
  let execution ← match execution with
    | some execution => pure execution
    | none => throw (.wrongLength 0 "struct RegistryEntry with 6 elements")
  let minVersion ← Json.itemOr items 1 0 Json.asInt64
  let tag ← Json.itemOr items 2 none readText
  let methods ← Json.itemOr items 3 none readMethods
  let returns ← Json.itemOr items 4 none readText
  let source ← Json.itemOr items 5 none readText
  Json.atMost items 6
  return ⟨execution, minVersion, tag, methods, returns, source⟩

/-- The entry that a row is. -/
def ofJson : Json → Except Json.Mismatch Entry
  | .obj fields => ofFields fields
  | .arr items => ofItems items
  | v => .error (Json.unexpected v "struct RegistryEntry")

end Entry

/-! ## Registries -/

namespace Registry

/-- The name by which a document says that it is a registry. -/
def documentKind : String := "callgate.function_registry.v1"

/-- The version of the document's form. -/
def documentSchema : Int := 1

/-- Why a value is no registry. -/
inductive Fault where
  /-- It is no object. -/
  | root
  /-- It says that it is something else. -/
  | kind (found : String)
  /-- It has another form. -/
  | schema (found : String)
  /-- What it holds under `functions` is no object. -/
  | functions
  /-- One of its rows is no entry. -/
  | row (name : String) (mismatch : Json.Mismatch)
deriving DecidableEq

def Fault.message : Fault → String
  | root => "invalid registry: registry root must be a JSON object"
  | kind found =>
    "invalid registry: registryKind must be " ++ documentKind ++ ", got " ++ found
  | schema found =>
    "invalid registry: schema must be " ++ String.ofList (Decimal.intChars documentSchema) ++
      ", got " ++ found
  | functions => "invalid registry: functions must be a JSON object"
  | row name mismatch => "invalid registry: functions." ++ name ++ ": " ++ mismatch.message

/-- The entries of rows in order, up to the first that is none. -/
def readRows : Json.Fields → Except Fault (List (String × Entry))
  | [] => .ok []
  | (name, row) :: rest =>
    match Entry.ofJson row with
    | .error e => .error (.row name e)
    | .ok entry =>
      match readRows rest with
      | .error e => .error e
      | .ok rows => .ok ((name, entry) :: rows)

/-- The registry of the rows of an object. -/
def ofRows : Json → Except Fault Registry
  | .obj rows => (readRows rows).map Dict.ofList
  | _ => .error .functions

/-- Refuse a document that says it is something else. -/
def checkKind (fields : Json.Fields) : Except Fault Unit :=
  match fields.get? "registryKind" with
  | none => .ok ()
  | some v => if v.str? = some documentKind then .ok () else .error (.kind v.compact)

/-- Refuse a document of another form. -/
def checkSchema (fields : Json.Fields) : Except Fault Unit :=
  match fields.get? "schema" with
  | none => .ok ()
  | some v => if v.int? = some documentSchema then .ok () else .error (.schema v.compact)

/-- The registry that a value is: a document if it has `functions`, and
otherwise the rows themselves. -/
def ofJson : Json → Except Fault Registry
  | .obj fields =>
    match Json.Fields.get? fields "functions" with
    | some functions => do
      checkKind fields
      checkSchema fields
      ofRows functions
    | none => ofRows (.obj fields)
  | _ => .error .root

end Registry

end Switchboard
