import Switchboard.Json.Mismatch
import Switchboard.Text.Blank
import Switchboard.Digest.Sha256

/-!
# The registry of functions

A registry says which functions may be called, by whom, and how they run.
An entry whose way of running is unknown stays in the registry, so that a call
can be denied for that reason.

## Main definitions

* `Execution`: how a function runs.
* `Entry`: what the registry says of a function.
* `Registry`: the entries under the names of their functions.
* `Registry.toJson`, `Registry.digest`: the written form and its digest.
-/

namespace Switchboard

inductive Execution where
  | native
  | script
  /-- In no way that is known. -/
  | unsupported (kind : String)
deriving DecidableEq

def Execution.name : Execution → String
  | .native => "native"
  | .script => "script"
  | .unsupported kind => kind

/-- What the registry says of a function. -/
structure Entry where
  execution : Execution
  /-- The least version that may call. -/
  minVersion : Int
  /-- The tag that a caller must have. -/
  requiredTag : Option String
  /-- The methods by which the function may be called; none listed means any. -/
  allowedMethods : Option TextSet
  /-- The name of the type that the function returns. -/
  returns : Option String
  /-- The text of the script. -/
  source : Option String
deriving DecidableEq

namespace Entry

/-- The entry of a native function open to everyone. -/
def native : Entry :=
  ⟨.native, 0, none, none, none, none⟩

/-- The entry of a function written as a script and open to everyone. -/
def script (source : String) : Entry :=
  ⟨.script, 0, none, none, none, some source⟩

/-- The text of the script, if there is more than blanks. -/
def source? (entry : Entry) : Option String :=
  entry.source.filter fun source => !Text.isAllBlank source

/-- A field that is written only if there is something to write. -/
def optionalField (name : String) : Option Json → Json.Fields
  | some v => [(name, v)]
  | none => []

/-- The JSON form of an entry. -/
def toJson (entry : Entry) : Json :=
  .obj ([("executionKind", .str entry.execution.name), ("minVersion", .int entry.minVersion)] ++
    optionalField "requiredTag" (entry.requiredTag.map Json.str) ++
    optionalField "allowedCallerMethods"
      (entry.allowedMethods.map fun set => Json.texts set.keys) ++
    optionalField "declaredReturnType" (entry.returns.map Json.str) ++
    optionalField "scriptSource" (entry.source.map Json.str))

end Entry

/-- The entries of functions under their names. -/
abbrev Registry := Dict Entry

namespace Registry

/-- The JSON form of a registry, without a frame around it. -/
def toJson (registry : Registry) : Json :=
  .obj (registry.entries.map fun row => (row.1, row.2.toJson))

/-- The text that identifies a revision of the registry. -/
def canonicalText (registry : Registry) : String :=
  registry.toJson.compact

/-- The digest that identifies a revision of the registry. -/
def digest (registry : Registry) : String :=
  Digest.hex (Digest.sha256 registry.canonicalText.toUTF8.toList)

end Registry

end Switchboard
