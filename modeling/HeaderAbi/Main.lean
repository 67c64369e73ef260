import HeaderAbi.Calendar
import HeaderAbi.CommandLine.Program
import HeaderAbi.Unicode.Width
import Std.Time.DateTime.Timestamp

/-!
# The command line

The program on a real machine.
-/

namespace HeaderAbi

/-- The text that systems give for a failed operation on a file. -/
def faultOfError (e : IO.Error) : FileFault :=
  match e with
  | .noFileOrDirectory .. => ⟨"No such file or directory (os error 2)", true⟩
  | .permissionDenied .. => ⟨"Permission denied (os error 13)", false⟩
  | .inappropriateType _ code details => ⟨s!"{details} (os error {code})", false⟩
  | .resourceExhausted _ code details => ⟨s!"{details} (os error {code})", false⟩
  | .invalidArgument _ code details => ⟨s!"{details} (os error {code})", false⟩
  | e => ⟨toString e, false⟩

/-- An operation whose failure is an answer. -/
def attempt {α : Type} (operation : IO α) : IO (Except FileFault α) := do
  try
    return .ok (← operation)
  catch e =>
    return .error (faultOfError e)

/-- True when an operation does not fail. -/
def succeeds {α : Type} (operation : IO α) : IO Bool := do
  return (← attempt operation).toOption.isSome

/-- The home directory, as the environment names it. -/
def homeOfEnvironment : IO (Option String) := do
  return (← IO.getEnv "HOME").filter fun h => !h.isEmpty

instance : Host IO where
  readFile path := attempt (IO.FS.readBinFile path)
  writeFile path bytes := attempt (IO.FS.writeBinFile path bytes)
  isPresent path := if path.isEmpty then pure false else succeeds (IO.FS.realPath path)
  isFile path := succeeds (IO.FS.readBinFile path)
  workingDirectory := do return (← IO.currentDir).toString
  homeDirectory := homeOfEnvironment
  settingsDirectory := do
    match (← IO.getEnv "XDG_CONFIG_HOME").filter fun d => d.startsWith "/" with
    | some directory => return some directory
    | none => return (← homeOfEnvironment).map fun h => FilePath.join h ".config"
  environment? name := IO.getEnv name
  time := do return Calendar.rfc3339 (← Std.Time.Timestamp.now).val.toNanoseconds.val.toNat
  isTerminal := do (← IO.getStdout).isTty
  measure := return Unicode.measure
  print bytes := do
    let stdout ← IO.getStdout
    stdout.write bytes
    stdout.flush
  note line := IO.eprintln line

end HeaderAbi

def main (arguments : List String) : IO UInt32 := do
  return UInt32.ofNat (← HeaderAbi.CommandLine.perform (m := IO) arguments)
