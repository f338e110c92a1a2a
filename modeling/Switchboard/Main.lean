import Switchboard.Command.Run
import Switchboard.Script.Plain.Engine

/-!
# The program

Reads the files that a command may read, runs it with the plain engine, and prints its
report.
-/

namespace Switchboard

/-- The number of a fault of the system, which may come with its sign changed. -/
def faultNumber (code : UInt32) : Nat :=
  if code.toNat < 2147483648 then code.toNat else 4294967296 - code.toNat

/-- The words of the system for the fault of a number. -/
def faultText (number : Nat) : Option String :=
  [(2, "No such file or directory"), (13, "Permission denied"), (20, "Not a directory"),
   (21, "Is a directory")].lookup number

/-- The number of a fault that a file could not be read for. -/
def faultCode? : IO.Error → Option UInt32
  | .noFileOrDirectory _ code _ => some code
  | .noSuchThing _ code _ => some code
  | .permissionDenied _ code _ => some code
  | .inappropriateType _ code _ => some code
  | .resourceExhausted _ code _ => some code
  | .invalidArgument _ code _ => some code
  | _ => none

/-- Why a file cannot be read, in the words of the system. -/
def readFault (e : IO.Error) : String :=
  match faultCode? e with
  | none => toString e
  | some code =>
    let number := faultNumber code
    (faultText number).getD (toString e) ++ " (os error " ++ Command.numeral number ++ ")"

def readFile (path : String) : IO (Except String ByteArray) := do
  try
    return .ok (← IO.FS.readBinFile path)
  catch e =>
    return .error (readFault e)

/-- Run a command line and end with its status. -/
def runProgram (args : List String) : IO UInt32 := do
  match Command.ofArgs args with
  | none =>
    IO.eprint "error: the command line is not understood\n\n"
    IO.eprint Command.usage
    return 2
  | some command =>
    let found ← command.paths.mapM fun path => return (path, ← readFile path)
    let files : Command.Files := fun path =>
      (found.lookup path).getD (.error "No such file or directory (os error 2)")
    let report := command.run Script.Plain.plain files
    IO.print report.output
    if let some diagnostic := report.diagnostic then
      IO.eprint diagnostic.render
    return UInt32.ofNat report.status

end Switchboard

def main (args : List String) : IO UInt32 :=
  Switchboard.runProgram args
