import HeaderAbi.Command.Basic
import HeaderAbi.Extraction

/-!
# Making dumps

`DumpJob.run` extracts a dump from facts files, `MergeJob.run` merges dumps into one.
-/

namespace HeaderAbi

variable {m : Type → Type} [Monad m] [Host m]

namespace DumpJob

/-- The facts in a file. -/
def loadFacts (path : String) : m (Except Error Facts) := do
  match ← Host.readFile path with
  | .error fault => return .error (.file (some path) fault.reason fault.notFound)
  | .ok bytes =>
    match String.fromUTF8? bytes with
    | none => return .error (.file (some path) "stream did not contain valid UTF-8" false)
    | some text => return (Facts.parse text).mapError (Error.within ("reading " ++ path))

def run (j : DumpJob) : Work m Outcome := do
  Command.check j.inputs j.complaints
  let sources ← j.inputs.mapM fun path => do return (path, ← ExceptT.lift (loadFacts (m := m) path))
  match Facts.extractAll sources with
  | .error e => throw (.extraction e)
  | .ok s =>
    Command.writeDump s j.output j.dump
    return .success

end DumpJob

namespace MergeJob

def run (j : MergeJob) : Work m Outcome := do
  Command.check j.inputs j.complaints
  let parts ← j.inputs.mapM fun path => do return (path, ← Command.loadDump path)
  match Snapshot.merge parts with
  | .error e => throw (.within "Failed to merge dumps" (.extraction e))
  | .ok s =>
    Command.writeDump s j.output j.dump
    return .success

end MergeJob

end HeaderAbi
