import Switchboard.Access.Gate
import Switchboard.Service.Backend
import Switchboard.Service.Returned

/-!
# The service

A service takes calls as texts.  It reads a call, asks whether it may be made,
runs it on its backend and, where results are checked, checks the result; the
first stage that fails gives the answer.

The registry can be replaced between calls.  Each call is served by the
registry that is installed when it is made.

## Main definitions

* `Service`: what stays the same from call to call.
* `Service.State`: what can change.
* `Service.invoke`: one call.
* `Service.run`: a sequence of calls and replacements.
-/

namespace Switchboard

/-- Why a call has no result. -/
inductive CallError where
  | malformed (e : Malformed)
  | denied (e : Denial)
  | failed (e : Failure)
  | returned (e : ReturnFault)
deriving DecidableEq

namespace CallError

def failureClass : CallError → String
  | malformed _ => Malformed.failureClass
  | denied e => e.failureClass
  | failed e => e.failureClass
  | returned e => e.failureClass

def message : CallError → String
  | malformed e => e.message
  | denied e => e.message
  | failed e => e.message
  | returned e => e.message

end CallError

/-- What stays the same from call to call. -/
structure Service (ν σ : Type) where
  natives : Native.Table ν
  host : Script.Host σ
  settings : Settings

/-- What is asked in one call. -/
structure Request where
  text : String
  context : Json.Fields
  caller : Caller
  /-- The table of fragments, if the call may use one. -/
  fragments : Option Fragments

namespace Service

variable {ν σ : Type}

/-- What can change from call to call. -/
structure State (ν σ : Type) where
  registry : Registry
  memory : Memory ν σ

/-- Check a result, if the settings ask for it. -/
def checkResult (settings : Settings) (function : String) (entry : Entry) (v : Json) :
    Except CallError Json :=
  if settings.strictReturns then
    match checkReturned function v entry.returns with
    | .ok () => .ok v
    | .error e => .error (.returned e)
  else .ok v

/-- The call that a request asks for and the entry by which it may be made. -/
def admission (settings : Settings) (registry : Registry) (request : Request) :
    Except CallError (Call × Entry) := do
  (Gate.requireRemote request.text settings).mapError .denied
  let call ← (Call.read .remote request.text).mapError .malformed
  let entry ← (Gate.grant call.method (registry.get? call.method) request.caller
    settings).mapError .denied
  return (call, entry)

def invoke (service : Service ν σ) (request : Request) (s : State ν σ) :
    Run CallError (Memory ν σ) :=
  match admission service.settings s.registry request with
  | .error e => ⟨.error e, [], s.memory⟩
  | .ok (call, entry) =>
    let ran := Backend.run service.natives service.host entry call request.context
      service.settings.resolution request.fragments s.memory
    match ran.result with
    | .error e => ⟨.error (.failed e), ran.effects, ran.memory⟩
    | .ok v => ⟨checkResult service.settings call.method entry v, ran.effects, ran.memory⟩

/-! ## Runs -/

inductive Step where
  | invoke (request : Request)
  | replace (registry : Registry)

inductive Answer where
  /-- How a call ended and what it did. -/
  | invoked (result : Except CallError Json) (effects : List Effect)
  /-- The registry that was replaced. -/
  | replaced (old : Registry)

def step (service : Service ν σ) (s : State ν σ) : Step → Answer × State ν σ
  | .invoke request =>
    let ran := service.invoke request s
    (.invoked ran.result ran.effects, { s with memory := ran.memory })
  | .replace registry => (.replaced s.registry, { s with registry := registry })

/-- The answers to steps in order, and the state behind them. -/
def run (service : Service ν σ) (s : State ν σ) : List Step → List Answer × State ν σ
  | [] => ([], s)
  | first :: rest =>
    let (answer, s) := service.step s first
    let (answers, s) := service.run s rest
    (answer :: answers, s)

/-! ## Services that embed an engine -/

/-- The service whose scripts are run by an engine, within the operations that the
settings allow. -/
def embedding (engine : Script.Engine) (natives : Native.Table ν) (settings : Settings) :
    Service ν engine.Program :=
  ⟨natives, .embedding engine (engine.withMaxOperations settings.maxOperations), settings⟩

/-- The state of such a service when it was just set up. -/
def State.fresh (engine : Script.Engine) (registry : Registry) (memory : ν) :
    State ν engine.Program :=
  ⟨registry, ⟨memory, engine.empty⟩⟩

end Service

end Switchboard
