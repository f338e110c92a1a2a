import Switchboard.Access.Caller
import Switchboard.Access.Gate
import Switchboard.Call.Basic
import Switchboard.Call.Binding
import Switchboard.Call.Token
import Switchboard.Command.Arguments
import Switchboard.Command.Inputs
import Switchboard.Command.Run
import Switchboard.Decimal.Layout
import Switchboard.Decimal.Literal
import Switchboard.Decimal.Shortest
import Switchboard.Dict
import Switchboard.Digest.Sha256
import Switchboard.Json.Basic
import Switchboard.Json.Mismatch
import Switchboard.Json.Numeral
import Switchboard.Json.Parser
import Switchboard.Json.Printer
import Switchboard.Kind
import Switchboard.Main
import Switchboard.Native.Stock
import Switchboard.Native.Table
import Switchboard.Proofs.Access.Methods
import Switchboard.Proofs.Access.Verbs
import Switchboard.Proofs.Call.Grammar
import Switchboard.Proofs.Call.Lookups
import Switchboard.Proofs.Call.Meaning
import Switchboard.Proofs.Call.Parens
import Switchboard.Proofs.Call.Rendering
import Switchboard.Proofs.Call.Restoring
import Switchboard.Proofs.Call.Stopping
import Switchboard.Proofs.Call.Values
import Switchboard.Proofs.Checks
import Switchboard.Proofs.Command.Reported
import Switchboard.Proofs.Decimal.Binary64
import Switchboard.Proofs.Decimal.Spelling
import Switchboard.Proofs.Json.Commas
import Switchboard.Proofs.Json.Reading
import Switchboard.Proofs.Native.Arguments
import Switchboard.Proofs.Native.Registering
import Switchboard.Proofs.Native.Selection
import Switchboard.Proofs.Registry.Forms
import Switchboard.Proofs.Registry.Kinds
import Switchboard.Proofs.Registry.Methods
import Switchboard.Proofs.Registry.Ordering
import Switchboard.Proofs.Registry.Reordering
import Switchboard.Proofs.Registry.Revisions
import Switchboard.Proofs.Registry.RoundTrip
import Switchboard.Proofs.Registry.Violations
import Switchboard.Proofs.Script.Accumulation
import Switchboard.Proofs.Script.Budgets
import Switchboard.Proofs.Script.Histories
import Switchboard.Proofs.Script.Isolation
import Switchboard.Proofs.Script.Plain
import Switchboard.Proofs.Script.Semantics
import Switchboard.Proofs.Service.Accepted
import Switchboard.Proofs.Service.Admission
import Switchboard.Proofs.Service.Budgets
import Switchboard.Proofs.Service.Callability
import Switchboard.Proofs.Service.Contexts
import Switchboard.Proofs.Service.Conventions
import Switchboard.Proofs.Service.Declared
import Switchboard.Proofs.Service.Dispatch
import Switchboard.Proofs.Service.Effects
import Switchboard.Proofs.Service.EitherWay
import Switchboard.Proofs.Service.History
import Switchboard.Proofs.Service.Integers
import Switchboard.Proofs.Service.Outcome
import Switchboard.Proofs.Service.Resolutions
import Switchboard.Proofs.Service.Returns
import Switchboard.Proofs.Service.Runs
import Switchboard.Proofs.Service.Stages
import Switchboard.Proofs.Service.Strictness
import Switchboard.Proofs.Service.Traces
import Switchboard.Proofs.Text.Bytes
import Switchboard.Proofs.Text.Names
import Switchboard.Proofs.Text.Pieces
import Switchboard.Proofs.Text.Trimming
import Switchboard.Registry.Basic
import Switchboard.Registry.Reader
import Switchboard.Registry.Report
import Switchboard.Script.Engine
import Switchboard.Script.Host
import Switchboard.Script.Plain.Engine
import Switchboard.Script.Plain.Eval
import Switchboard.Script.Plain.Evaluation
import Switchboard.Script.Plain.Library
import Switchboard.Script.Plain.Parser
import Switchboard.Script.Plain.Syntax
import Switchboard.Script.Plain.Token
import Switchboard.Script.Plain.Value
import Switchboard.Service.Backend
import Switchboard.Service.Basic
import Switchboard.Service.Returned
import Switchboard.Settings.Basic
import Switchboard.Settings.Reader
import Switchboard.Text.Blank
import Switchboard.Text.Hidden
import Switchboard.Text.Name
import Switchboard.Text.Quoted
import Switchboard.Toml.Basic
import Switchboard.Toml.Parser
