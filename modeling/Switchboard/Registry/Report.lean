import Switchboard.Registry.Basic
import Switchboard.Access.Caller
import Switchboard.Kind
import Switchboard.Text.Name

/-!
# Checking a registry

What is wrong with the entries of a registry can be told before anything is
called.  A report lists it by the path of the field that is at fault.

## Main definitions

* `Violation`: what can be wrong with an entry.
* `Entry.violations name entry`: what is wrong with an entry.
* `Registry.issues`: what is wrong with a registry, in order.
-/

namespace Switchboard

/-- What can be wrong with an entry. -/
inductive Violation where
  /-- The name it stands under is no name of a function. -/
  | invalidName
  /-- It runs natively and has a script. -/
  | nativeHasSource
  /-- It runs as a script and has none. -/
  | sourceMissing
  /-- It runs in no way that is known. -/
  | unsupportedKind (kind : String)
  /-- It is declared to return a type that is not known. -/
  | unresolvableReturnType (name : String)
  /-- It lists a method that is none. -/
  | unknownMethod (method : String)
deriving DecidableEq

namespace Violation

def failureClass : Violation → String
  | invalidName => "registry_invalid_name"
  | nativeHasSource => "registry_native_has_source"
  | sourceMissing => "registry_script_source_missing"
  | unsupportedKind _ => "registry_unsupported_kind"
  | unresolvableReturnType _ => "registry_unresolvable_return_type"
  | unknownMethod _ => "registry_unknown_method"

/-- The path from an entry to the field at fault. -/
def field : Violation → String
  | invalidName => ""
  | nativeHasSource => ".scriptSource"
  | sourceMissing => ".scriptSource"
  | unsupportedKind _ => ".executionKind"
  | unresolvableReturnType _ => ".declaredReturnType"
  | unknownMethod _ => ".allowedCallerMethods"

def message (name : String) : Violation → String
  | invalidName => "`" ++ name ++ "` is not a valid function name"
  | nativeHasSource => "native functions must not carry script source"
  | sourceMissing => "script functions require non-empty script source"
  | unsupportedKind kind =>
    "execution kind `" ++ kind ++ "` must be one of [native, script]"
  | unresolvableReturnType type => "declared return type `" ++ type ++ "` names no known type"
  | unknownMethod method => "unknown request method `" ++ method ++ "`"

end Violation

namespace Entry

/-- What is wrong with how an entry runs. -/
def executionViolations (entry : Entry) : List Violation :=
  match entry.execution, entry.source? with
  | .native, some _ => [.nativeHasSource]
  | .script, none => [.sourceMissing]
  | .unsupported kind, _ => [.unsupportedKind kind]
  | _, _ => []

/-- What is wrong with what an entry is declared to return. -/
def returnViolations (entry : Entry) : List Violation :=
  match Declaration.ofName? entry.returns with
  | none => [.unresolvableReturnType (entry.returns.getD "")]
  | some _ => []

/-- The methods that an entry lists. -/
def methods (entry : Entry) : List String :=
  (entry.allowedMethods.map TextSet.toList).getD []

/-- What is wrong with the methods that an entry lists. -/
def methodViolations (entry : Entry) : List Violation :=
  (entry.methods.filter fun method => (Verb.ofText? method).isNone).map .unknownMethod

/-- What is wrong with the entry under a name. -/
def violations (name : String) (entry : Entry) : List Violation :=
  (if Text.isName name then [] else [.invalidName]) ++
    entry.executionViolations ++ entry.returnViolations ++ entry.methodViolations

end Entry

/-- A violation by the entry under a name. -/
structure Issue where
  name : String
  violation : Violation
deriving DecidableEq

namespace Issue

def failureClass (issue : Issue) : String :=
  issue.violation.failureClass

def path (issue : Issue) : String :=
  "functions." ++ issue.name ++ issue.violation.field

def message (issue : Issue) : String :=
  issue.violation.message issue.name

/-- The order of a report: by path, then by failure class, then by wording. -/
def isBefore (a b : Issue) : Bool :=
  if a.path = b.path then
    if a.failureClass = b.failureClass then a.message ≤ b.message
    else a.failureClass < b.failureClass
  else a.path < b.path

def toJson (issue : Issue) : Json :=
  .obj [("failureClass", .str issue.failureClass), ("path", .str issue.path),
    ("message", .str issue.message)]

end Issue

namespace Registry

/-- What is wrong with a registry, in the order of a report. -/
def issues (registry : Registry) : List Issue :=
  (registry.entries.flatMap fun row =>
    (Entry.violations row.1 row.2).map fun violation => (⟨row.1, violation⟩ : Issue)).mergeSort
      Issue.isBefore

/-- The failure classes that occur, in order. -/
def failureClasses (issues : List Issue) : List String :=
  (TextSet.ofList (issues.map Issue.failureClass)).toList

/-- Whether nothing is wrong with a registry. -/
def isAccepted (registry : Registry) : Bool :=
  registry.issues.isEmpty

/-- The verdict on a registry in one word. -/
def verdict (accepted : Bool) : String :=
  if accepted then "accepted" else "rejected"

end Registry

end Switchboard
