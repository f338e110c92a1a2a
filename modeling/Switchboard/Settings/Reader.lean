import Switchboard.Settings.Basic
import Switchboard.Toml.Parser

/-!
# Settings from a file

A file sets any of the settings by name.  A file that names anything else, or
gives a setting a value that is none for it, is refused as a whole.
-/

namespace Switchboard.Settings

/-- The way to hand over arguments that a value names: by a text, or by the
only key of a table, under which nothing stands. -/
def resolutionOf? : Toml.Item → Option Resolution
  | .text name => ofName? name
  | .table _ [(name, .table _ [])] => ofName? name
  | .table _ [(name, .array [])] => ofName? name
  | _ => none
where
  /-- The way to hand over arguments of a name. -/
  ofName? (name : String) : Option Resolution :=
    if name = "eager" then some .eager else if name = "lazy" then some .lazy else none

/-- The settings with one of them taken from an entry. -/
def readEntry? (settings : Settings) : String × Toml.Item → Option Settings
  | ("enable_remote", .flag b) => some { settings with remoteEnabled := b }
  | ("enable_script", .flag b) => some { settings with scriptsEnabled := b }
  | ("resolution", item) =>
    (resolutionOf? item).map fun resolution => { settings with resolution := resolution }
  | ("strict_return_types", .flag b) => some { settings with strictReturns := b }
  | ("script_max_operations", .integer n) =>
    if 0 ≤ n then some { settings with maxOperations := some n.toNat } else none
  | _ => none

/-- The settings that a file makes. -/
def parse? (text : String) : Option Settings :=
  (Toml.parse? text).bind fun entries => entries.foldlM readEntry? standard

end Switchboard.Settings
