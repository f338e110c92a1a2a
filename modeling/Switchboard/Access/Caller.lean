import Switchboard.Json.Mismatch
import Switchboard.Text.Blank

/-!
# Who calls

A caller is known by the verb of the request it makes, by a tag, and by a
version.

## Main definitions

* `Verb`, `Verb.ofText?`: the verbs of requests and their free spelling.
* `Caller`, `Caller.ofJson`, `Caller.toJson`: callers and their JSON form.
-/

namespace Switchboard

inductive Verb where
  | get
  | head
  | gets
  | heads
  | post
  | put
  | delete
  | crud
deriving DecidableEq

namespace Verb

def name : Verb → String
  | get => "GET"
  | head => "HEAD"
  | gets => "GETS"
  | heads => "HEADS"
  | post => "POST"
  | put => "PUT"
  | delete => "DELETE"
  | crud => "CRUD"

def all : List Verb :=
  [get, head, gets, heads, post, put, delete, crud]

/-- A text with its ASCII letters in upper case. -/
def upperCase (s : String) : String :=
  String.ofList (s.toList.map Char.toUpper)

/-- The verb that a text means, whatever the case of its letters and with
blanks around it. -/
def ofText? (s : String) : Option Verb :=
  all.find? fun verb => verb.name == upperCase (Text.trim s)

/-- The diagnostic for a text that means no verb. -/
def unknown (s : String) : String :=
  "unknown request method `" ++ s ++ "`; expected one of " ++ ", ".intercalate (all.map name)

/-- A verb by its exact name. -/
def ofJson : Json → Except Json.Mismatch Verb :=
  Json.asVariant (all.map fun verb => (verb.name, verb))

/-- Whether a text in a list of methods names a verb, in any case. -/
def matchesName (verb : Verb) (listed : String) : Bool :=
  upperCase listed == upperCase verb.name

end Verb

structure Caller where
  method : Verb
  tag : Option String
  version : Int
deriving DecidableEq

namespace Caller

/-- The caller that nothing is known of. -/
def anonymous : Caller :=
  ⟨.get, none, 0⟩

instance : Inhabited Caller := ⟨anonymous⟩

/-- A caller from the fields of a record. -/
def ofFields (fields : Json.Fields) : Except Json.Mismatch Caller := do
  let method ← Json.fieldOr fields "method" .get Verb.ofJson
  let tag ← Json.fieldOr fields "tag" none (Json.optional Json.asText)
  let version ← Json.fieldOr fields "version" 0 Json.asInt64
  return ⟨method, tag, version⟩

/-- A caller from an array of the fields in order. -/
def ofItems (items : List Json) : Except Json.Mismatch Caller := do
  let method ← Json.itemOr items 0 .get Verb.ofJson
  let tag ← Json.itemOr items 1 none (Json.optional Json.asText)
  let version ← Json.itemOr items 2 0 Json.asInt64
  Json.atMost items 3
  return ⟨method, tag, version⟩

/-- A caller from its JSON form, in which every field may be left out. -/
def ofJson : Json → Except Json.Mismatch Caller
  | .obj fields => ofFields fields
  | .arr items => ofItems items
  | v => .error (Json.unexpected v "struct CallerContext")

def toJson (caller : Caller) : Json :=
  .obj [("method", .str caller.method.name), ("tag", (caller.tag.map Json.str).getD .null),
    ("version", .int caller.version)]

end Caller

end Switchboard
