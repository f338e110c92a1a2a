import Switchboard.Call.Token
import Switchboard.Json.Parser
import Switchboard.Registry.Reader
import Switchboard.Settings.Reader

/-!
# Files that commands read

A command reads its files in a fixed order and ends at the first that cannot
be used: with status 2 if the file cannot be read at all, and with status 1 if
it is not what it should be.

## Main definitions

* `Files`: what is found at a path.
* `Report`: what a command prints and the status it ends with.
* `Inputs.registry`, `Inputs.context`, `Inputs.fragments`, `Inputs.settings`:
  the files of a command.
-/

namespace Switchboard.Command

/-- What is found at a path: the bytes of a file, or why they cannot be read. -/
abbrev Files := String → Except String ByteArray

/-- A diagnostic: what is wrong, and in what detail. -/
structure Diagnostic where
  text : String
  detail : Option String
deriving DecidableEq

/-- A diagnostic as it is printed. -/
def Diagnostic.render (d : Diagnostic) : String :=
  "error: " ++ d.text ++ (d.detail.map fun detail => ": " ++ detail).getD "" ++ "\n"

/-- What a command prints and the status it ends with. -/
structure Report where
  status : Nat
  output : String
  diagnostic : Option Diagnostic
deriving DecidableEq

/-- The report of a command that ends with nothing but a diagnostic. -/
def Report.failed (status : Nat) (text : String) (detail : Option String) : Report :=
  ⟨status, "", some ⟨text, detail⟩⟩

namespace Inputs

/-- The text of a file, or why there is none. -/
def readText (files : Files) (path : String) : Except String String :=
  match files path with
  | .error words => .error words
  | .ok bytes =>
    match String.fromUTF8? bytes with
    | some text => .ok text
    | none => .error "stream did not contain valid UTF-8"

/-- The text of a file that has a label, without a label for settings. -/
def labelled (label : Option String) (files : Files) (path : String) : Except Report String :=
  match readText files path with
  | .ok text => .ok text
  | .error words =>
    let front := (label.map fun label => "invalid " ++ label ++ ": ").getD ""
    .error (.failed 2 (front ++ "failed to read file: " ++ path ++ ": " ++ words) none)

def registry (files : Files) (path : String) : Except Report Registry := do
  let text ← labelled (some "function registry") files path
  match Json.parse? text with
  | none =>
    throw (.failed 1 ("invalid function registry: invalid json at " ++ path)
      (some "not a JSON text"))
  | some v =>
    match Registry.ofJson v with
    | .ok registry => return registry
    | .error fault => throw (.failed 1 ("invalid function registry: " ++ fault.message) none)

def fragments (files : Files) (path : String) : Except Report Fragments := do
  let text ← labelled (some "raw-literal table") files path
  let refuse (detail : String) : Report :=
    .failed 1 ("invalid raw-literal table: invalid json at " ++ path) (some detail)
  match Json.document? text with
  | none => throw (refuse "not a JSON text")
  | some v =>
    match Fragments.ofJson v with
    | .ok table => return table
    | .error mismatch => throw (refuse mismatch.message)

def context (files : Files) (path : String) : Except Report Json.Fields :=
  match files path with
  | .error words =>
    .error (.failed 2 ("failed to read data context at " ++ path ++ ": " ++ words) none)
  | .ok bytes =>
    match (String.fromUTF8? bytes).bind Json.parse? with
    | none =>
      .error (.failed 1 ("failed to parse data context JSON at " ++ path) (some "not a JSON text"))
    | some (.obj fields) => .ok fields
    | some v =>
      .error (.failed 1
        ("data context at " ++ path ++ " must be a JSON object, got " ++ v.compact) none)

def settings (files : Files) (path : String) : Except Report Settings := do
  let text ← labelled none files path
  match Settings.parse? text with
  | some settings => return settings
  | none => throw (.failed 1 ("invalid toml at " ++ path) (some "not a table of settings"))

/-- A file that may be left out. -/
def optional {α : Type} (read : String → Except Report α) : Option String → Except Report (Option α)
  | none => .ok none
  | some path => (read path).map some

end Inputs

end Switchboard.Command
