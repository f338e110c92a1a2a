import Switchboard.Text.Blank
import Switchboard.Text.Name

/-!
# Calls as they are written

A call is written `schema.method(key0,key1,...)`, the schema and its dot being
optional where calls of stored procedures are read and forbidden elsewhere.
The grammar is flat: keys are what stands between commas, whatever quotes and
parentheses it holds, so calls do not nest.

## Main definitions

* `Call`: a call taken apart.
* `Call.read site text`: the call that a text is.
* `Call.splitKeys list`: the keys between the parentheses.
* `Call.signature call`: the signature that a call by keys asks for.
* `Malformed`: why a text is no call.
-/

namespace Switchboard

/-- Where a call stands, which decides whether it may name a schema. -/
inductive Site where
  /-- A plain call of a registered function. -/
  | remote
  /-- A call of a function or procedure of the database. -/
  | sql
deriving DecidableEq

/-- What is called at a site, in diagnostics. -/
def Site.calleeNoun : Site → String
  | .remote => "remote function"
  | .sql => "SQL function/stored procedure"

/-- What is wrong with a text that is no call. -/
inductive Malformed.Reason where
  /-- It is not a callee followed by one pair of parentheses. -/
  | shape
  /-- Its function name is no name. -/
  | method (name : String) (site : Site)
  /-- It names a schema where none may stand. -/
  | qualified (schema : String)
  /-- Its schema name is no name. -/
  | schema (name : String)
deriving DecidableEq

/-- A text that is no call. -/
structure Malformed where
  text : String
  reason : Malformed.Reason
deriving DecidableEq

namespace Malformed

def Reason.message : Reason → String
  | shape => "expected a single call of the form function(key0,key1,...) ending in `)`"
  | method name site =>
    "function name `" ++ name ++ "` must be non-empty and follow " ++ site.calleeNoun ++
      " naming; keys are names looked up in the request"
  | qualified name =>
    "remote functions may not be qualified with a schema (`" ++ name ++ ".`)"
  | schema name => "schema name `" ++ name ++ "` must be non-empty and follow naming rules"

/-- The wording of the whole diagnostic. -/
def message (e : Malformed) : String :=
  "malformed call expression `" ++ e.text ++ "`: " ++ e.reason.message

def failureClass : String := "malformed_expression"

end Malformed

structure Call where
  /-- The text it was read from. -/
  text : String
  schema : Option String
  method : String
  /-- What stands between the commas, in order. -/
  keys : List String
deriving DecidableEq

namespace Call

/-! ## Reading -/

/-- The keys in the characters between the parentheses: none if there are only
blanks, else what stands between commas, trimmed. -/
def splitKeyChars (cs : List Char) : List (List Char) :=
  if cs.all Text.isBlank then [] else (Text.pieces ',' cs).map Text.trimChars

/-- The keys in the text between the parentheses. -/
def splitKeys (list : String) : List String :=
  (splitKeyChars list.toList).map String.ofList

/-- A text up to its first opening parenthesis, which it does not start with,
and from there to its closing parenthesis, which it ends with. -/
def splitParens? (cs : List Char) : Option (List Char × List Char) :=
  let callee := cs.takeWhile (· != '(')
  match cs.dropWhile (· != '(') with
  | [] => none
  | _ :: inner =>
    if !callee.isEmpty && inner.getLast? == some ')' then some (callee, inner.dropLast) else none

/-- The schema before the first dot of a callee, if there is a dot, and the
method behind it. -/
def splitSchema (callee : List Char) : Option (List Char) × List Char :=
  match callee.dropWhile (· != '.') with
  | [] => (none, callee)
  | _ :: method => (some (callee.takeWhile (· != '.')), method)

/-- What is wrong with a schema at a site, if anything is. -/
def schemaFault? (site : Site) (schema : String) : Option Malformed.Reason :=
  if site = .remote ∧ ¬ Text.isAllBlank schema then some (.qualified schema)
  else if Text.isName schema then none
  else some (.schema schema)

/-- The call that a text is at a site. -/
def read (site : Site) (text : String) : Except Malformed Call :=
  match splitParens? text.toList with
  | none => .error ⟨text, .shape⟩
  | some (callee, list) =>
    let method := String.ofList (splitSchema callee).2
    let schema := (splitSchema callee).1.map String.ofList
    if !Text.isName method then .error ⟨text, .method method site⟩
    else
      match schema.bind (schemaFault? site) with
      | some reason => .error ⟨text, reason⟩
      | none => .ok ⟨text, schema, method, (splitKeyChars list).map String.ofList⟩

/-! ## Signatures -/

/-- The signature of a function that is handed the request and its keys. -/
def keyedSignature (method : String) (keys : List String) : String :=
  method ++ "(JSONObject request" ++ String.join (keys.map fun key => ", String " ++ key) ++ ")"

/-- The signature that a call by keys asks for. -/
def signature (call : Call) : String :=
  keyedSignature call.method call.keys

end Call

end Switchboard
