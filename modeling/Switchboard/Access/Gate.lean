import Switchboard.Access.Caller
import Switchboard.Registry.Basic
import Switchboard.Settings.Basic

/-!
# Who may call what

A call passes only if the registry has an entry for its function and the
entry's conditions hold.  They are checked in a fixed order, and the first
that fails is the reason of the denial:

1. calls are taken at all, which is asked before the call is read;
2. there is an entry;
3. the way its function runs is known and switched on;
4. the version of the caller is not below the least;
5. the tag of the caller is the required one, if one is required;
6. the method of the caller is listed, if any is.

## Main definitions

* `Denial`: why a call may not be made.
* `Gate.requireRemote`: the first condition.
* `Gate.grant`: the others.
-/

namespace Switchboard

inductive Denial where
  | remoteDisabled (function : String)
  | unknownFunction (function : String)
  | unsupportedKind (function kind : String)
  | scriptDisabled (function : String)
  | versionTooLow (function : String) (actual required : Int)
  | tagMismatch (function : String) (actual : Option String) (required : String)
  | methodNotAllowed (function : String) (actual : Verb) (allowed : List String)
deriving DecidableEq

namespace Denial

def failureClass : Denial → String
  | remoteDisabled .. => "remote_disabled"
  | unknownFunction .. => "unknown_function"
  | unsupportedKind .. => "unsupported_kind"
  | scriptDisabled .. => "script_disabled"
  | versionTooLow .. => "version_too_low"
  | tagMismatch .. => "tag_mismatch"
  | methodNotAllowed .. => "method_not_allowed"

def message : Denial → String
  | remoteDisabled f =>
    "remote function calls are disabled; cannot call `" ++ f ++ "` until enable_remote = true"
  | unknownFunction f =>
    "remote function `" ++ f ++ "` is not registered and may not be called"
  | unsupportedKind f kind =>
    "remote function `" ++ f ++ "` has unsupported execution kind `" ++ kind ++
      "`; must be one of [native, script]"
  | scriptDisabled f =>
    "remote function `" ++ f ++ "` is a script function but script dispatch is disabled; " ++
      "set enable_script = true to allow it"
  | versionTooLow f actual required =>
    "caller version " ++ String.ofList (Decimal.intChars actual) ++
      " may not call remote function `" ++ f ++ "`; requires version >= " ++
      String.ofList (Decimal.intChars required)
  | tagMismatch f actual required =>
    "caller tag " ++ actual.getD "null" ++ " may not call remote function `" ++ f ++
      "`; requires tag = " ++ required
  | methodNotAllowed f actual allowed =>
    "caller method " ++ actual.name ++ " may not call remote function `" ++ f ++
      "`; method must be one of [" ++ ", ".intercalate allowed ++ "]"

end Denial

namespace Gate

/-- Calls are taken at all.  The denial names the call as it was written. -/
def requireRemote (text : String) (settings : Settings) : Except Denial Unit :=
  if settings.remoteEnabled then .ok () else .error (.remoteDisabled text)

/-- The way a function runs is known and switched on. -/
def requireExecution (function : String) (entry : Entry) (settings : Settings) :
    Except Denial Unit :=
  match entry.execution with
  | .native => .ok ()
  | .script => if settings.scriptsEnabled then .ok () else .error (.scriptDisabled function)
  | .unsupported kind => .error (.unsupportedKind function kind)

/-- The version of the caller is not below the least. -/
def requireVersion (function : String) (entry : Entry) (caller : Caller) : Except Denial Unit :=
  if entry.minVersion ≤ caller.version then .ok ()
  else .error (.versionTooLow function caller.version entry.minVersion)

/-- The tag of the caller is the required one, if one is required. -/
def requireTag (function : String) (entry : Entry) (caller : Caller) : Except Denial Unit :=
  match entry.requiredTag with
  | none => .ok ()
  | some required =>
    if caller.tag = some required then .ok ()
    else .error (.tagMismatch function caller.tag required)

/-- The method of the caller is listed, if any is. -/
def requireMethod (function : String) (entry : Entry) (caller : Caller) : Except Denial Unit :=
  match entry.allowedMethods with
  | none => .ok ()
  | some allowed =>
    if allowed.isEmpty || allowed.toList.any caller.method.matchesName then .ok ()
    else .error (.methodNotAllowed function caller.method allowed.toList)

/-- The entry by which a caller may call a function. -/
def grant (function : String) (entry : Option Entry) (caller : Caller) (settings : Settings) :
    Except Denial Entry :=
  match entry with
  | none => .error (.unknownFunction function)
  | some entry => do
    requireExecution function entry settings
    requireVersion function entry caller
    requireTag function entry caller
    requireMethod function entry caller
    return entry

end Gate

end Switchboard
