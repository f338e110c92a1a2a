import Switchboard.Call.Binding

/-!
# Settings

What may be switched on and off, how the arguments of native functions are
handed over, and how long a script may run.
-/

namespace Switchboard

structure Settings where
  /-- Calls are taken at all. -/
  remoteEnabled : Bool
  /-- Functions written as scripts are run. -/
  scriptsEnabled : Bool
  /-- How the arguments of native functions are handed over. -/
  resolution : Resolution
  /-- Results are checked against what their functions are declared to return. -/
  strictReturns : Bool
  /-- The operations that one call of a script may take. -/
  maxOperations : Option Nat
deriving DecidableEq

namespace Settings

/-- The settings in force where nothing is said. -/
def standard : Settings :=
  ⟨true, true, .lazy, false, none⟩

instance : Inhabited Settings := ⟨standard⟩

def names : List String :=
  ["enable_remote", "enable_script", "resolution", "strict_return_types", "script_max_operations"]

/-- The settings with one of them read from a field. -/
def readField (settings : Settings) (name : String) (v : Json) :
    Except Json.Mismatch Settings :=
  match name with
  | "enable_remote" => (Json.asFlag v).map fun b => { settings with remoteEnabled := b }
  | "enable_script" => (Json.asFlag v).map fun b => { settings with scriptsEnabled := b }
  | "resolution" => (Resolution.ofJson v).map fun r => { settings with resolution := r }
  | "strict_return_types" => (Json.asFlag v).map fun b => { settings with strictReturns := b }
  | "script_max_operations" =>
    (Json.optional Json.asWord64 v).map fun n => { settings with maxOperations := n }
  | name => .error (.unknownField name names)

/-- The settings with some of them read from fields. -/
def readFields (settings : Settings) : Json.Fields → Except Json.Mismatch Settings
  | [] => .ok settings
  | (name, v) :: rest =>
    match settings.readField name v with
    | .ok settings => settings.readFields rest
    | .error e => .error e

/-- Settings from their JSON form, in which every field may be left out and no
other may stand. -/
def ofJson : Json → Except Json.Mismatch Settings
  | .obj fields => standard.readFields fields
  | .arr items => do
    let settings ← standard.readFields (names.zip items)
    Json.atMost items names.length
    return settings
  | v => .error (Json.unexpected v "struct DispatchConfig")

def toJson (settings : Settings) : Json :=
  .obj [("enable_remote", .bool settings.remoteEnabled),
    ("enable_script", .bool settings.scriptsEnabled),
    ("resolution", .str settings.resolution.name),
    ("strict_return_types", .bool settings.strictReturns),
    ("script_max_operations", (settings.maxOperations.map Json.nat).getD .null)]

end Settings

end Switchboard
