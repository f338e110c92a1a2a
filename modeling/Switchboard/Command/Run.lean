import Switchboard.Command.Arguments
import Switchboard.Command.Inputs
import Switchboard.Native.Stock
import Switchboard.Registry.Report
import Switchboard.Service.Basic

/-!
# Running a command

A command is a function of its arguments and the files it reads: it ends with
a report of what is printed and with which status.  Scripts are run by the engine that
the program is built with.

## Main definitions

* `Command.run engine files command`: the report of a command.
* `Command.paths command`: the files that a command may read.
-/

namespace Switchboard.Command

/-- A record in the form with lines, its fields in key order. -/
def record (fields : Json.Fields) : String :=
  (Json.canonical (.obj fields)).pretty ++ "\n"

/-- The report of a command that ends well. -/
def printed (output : String) : Report :=
  ⟨0, output, none⟩

/-- The report of a call that is rejected. -/
def rejected (failureClass message : String) (json : Bool) : Report :=
  if json then
    ⟨1, record [("result", .str "rejected"), ("failureClass", .str failureClass),
      ("message", .str message)], none⟩
  else .failed 1 message none

/-- A number in a report. -/
def numeral (n : Nat) : String :=
  String.ofList (Nat.toDigits 10 n)

def lines (items : List String) : String :=
  String.join (items.map (· ++ "\n"))

/-! ## The commands -/

/-- Take a call apart. -/
def runParse (text : String) (sql json : Bool) : Report :=
  match Call.read (if sql then .sql else .remote) text with
  | .error e => rejected Malformed.failureClass e.message json
  | .ok call =>
    if json then
      printed (record [("result", .str "accepted"), ("call", Binding.callJson call),
        ("signatureHint", .str call.signature)])
    else
      printed (lines (["callgate parse", "  Expression: " ++ call.text] ++
        (call.schema.map fun schema => "  Schema: " ++ schema).toList ++
        ["  Method: " ++ call.method, "  Keys: " ++ numeral call.keys.length] ++
        call.keys.zipIdx.map (fun row => "    #" ++ numeral row.2 ++ " " ++ row.1) ++
        ["  Signature: " ++ call.signature]))

/-- Say what a key means in a data context. -/
def runResolve (files : Files) (token contextPath : String) (fragmentsPath : Option String)
    (json : Bool) : Except Report Report := do
  let context ← Inputs.context files contextPath
  let fragments ← Inputs.optional (Inputs.fragments files) fragmentsPath
  let v := Token.resolve token context fragments
  if json then
    return printed (record [("token", .str token), ("rawLookup", .bool fragments.isSome),
      ("value", v), ("kind", .str (Kind.of v).typeName)])
  else return printed (v.compact ++ "\n")

/-- The settings of a call from the command line. -/
def effectiveSettings (options : InvokeOptions) (settings : Settings) : Settings :=
  { settings with
    resolution := if options.eager then .eager else settings.resolution
    strictReturns := options.strict || settings.strictReturns }

/-- The report of a call that has a result: what was called with which values,
by whom, under which registry, and with what result. -/
def accepted (options : InvokeOptions) (registry : Registry) (request : Request) (v : Json) :
    Report :=
  if options.json then
    let resolved :=
      match Call.read .remote request.text with
      | .ok call =>
        .str ((Binding.bind call request.context request.fragments .eager).renderValues "'")
      | .error _ => .null
    printed (record [("result", .str "accepted"), ("expr", .str request.text),
      ("resolvedCall", resolved), ("caller", request.caller.toJson),
      ("registryDigest", .str registry.digest), ("value", v)])
  else printed (v.compact ++ "\n")

/-- Make a call with the stock of native functions. -/
def runInvoke (engine : Script.Engine) (files : Files) (options : InvokeOptions) :
    Except Report Report := do
  let settings ← Inputs.optional (Inputs.settings files) options.settings
  let registry ← Inputs.registry files options.registry
  let context ← Inputs.context files options.context
  let fragments ← Inputs.optional (Inputs.fragments files) options.fragments
  let settings := effectiveSettings options (settings.getD .standard)
  let request : Request := ⟨options.text, context, options.caller, fragments⟩
  let ran := (Service.embedding engine Native.stock settings).invoke request
    (.fresh engine registry ())
  match ran.result with
  | .ok v => return accepted options registry request v
  | .error e => return rejected e.failureClass e.message options.json

def runRegistryCheck (files : Files) (path : String) (json : Bool) : Except Report Report := do
  let registry ← Inputs.registry files path
  let issues := registry.issues
  let verdict := Registry.verdict issues.isEmpty
  let classes := Registry.failureClasses issues
  let output :=
    if json then
      record [("schema", .nat 1), ("checkKind", .str "callgate.registry_check.v1"),
        ("registryKind", .str Registry.documentKind), ("registryPath", .str path),
        ("functions", .nat registry.size), ("digest", .str registry.digest),
        ("result", .str verdict), ("failureClasses", Json.texts classes),
        ("issues", .arr (issues.map Issue.toJson))]
    else
      lines (["callgate registry-check", "  Registry path: " ++ path,
        "  Functions: " ++ numeral registry.size, "  Digest: " ++ registry.digest,
        "  Result: " ++ verdict, "  Failure classes: " ++ numeral classes.length] ++
        issues.map fun issue =>
          "    [" ++ issue.failureClass ++ "] " ++ issue.path ++ ": " ++ issue.message)
  return ⟨if issues.isEmpty then 0 else 1, output, none⟩

def usage : String :=
  lines ["Callgate: parse, resolve, authorize and dispatch textual function calls", "",
    "Usage: callgate <COMMAND>", "",
    "Commands:",
    "  parse <EXPR> [--sql] [--json]",
    "  resolve <TOKEN> --context <FILE> [--raw <FILE>] [--json]",
    "  invoke <EXPR> --registry <FILE> --context <FILE> [--config <FILE>] [--raw <FILE>]",
    "         [--method <METHOD>] [--tag <TAG>] [--version <N>] [--eager] [--strict] [--json]",
    "  registry-check --registry <FILE> [--json]"]

def run (engine : Script.Engine) (files : Files) (command : Command) : Report :=
  let report : Except Report Report :=
    match command with
    | .parse text sql json => .ok (runParse text sql json)
    | .resolve token context fragments json => runResolve files token context fragments json
    | .invoke options => runInvoke engine files options
    | .registryCheck registry json => runRegistryCheck files registry json
    | .version => .ok (printed "callgate 0.1.0\n")
    | .help => .ok (printed usage)
  match report with
  | .ok report => report
  | .error report => report

/-- The files that a command may read. -/
def paths : Command → List String
  | .resolve _ context fragments _ => context :: fragments.toList
  | .invoke options =>
    options.settings.toList ++ [options.registry, options.context] ++ options.fragments.toList
  | .registryCheck registry _ => [registry]
  | _ => []

end Switchboard.Command
