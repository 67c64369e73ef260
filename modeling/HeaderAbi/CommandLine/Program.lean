import HeaderAbi.Command.Diff
import HeaderAbi.Command.Dump
import HeaderAbi.Command.SettingsFile
import HeaderAbi.CommandLine.Invocation
import HeaderAbi.Settings.Example
import HeaderAbi.Settings.Schema

/-!
# The program

`perform` carries out a command line on a machine and answers with an exit code.
-/

namespace HeaderAbi.CommandLine

variable {m : Type → Type} [Monad m] [Host m]

def versionText : String := "abi-tools 0.1.0"

def usageText : String := "\n".intercalate [
  "ABI dump and compatibility diff for C/C++ headers",
  "",
  "Usage: abi-tools [OPTIONS] <COMMAND>",
  "",
  "Commands:",
  "  dump      Extract an ABI dump from frontend facts",
  "  merge     Merge several dumps into one",
  "  validate  Check that a dump loads and satisfies the model invariants",
  "  diff      Compare two dumps",
  "  init      Generate an example .abi-tools.yaml in the current directory",
  "  schema    Generate JSON Schema for the config file format"]

/-- The settings in force: a preset, a settings file and the options of the command line. -/
def settingsUnder (o : GlobalOptions) (given : Settings) : Work m Settings := do
  let preset ← match o.preset with
    | none => pure none
    | some word =>
      match Preset.ofWord? word with
      | some p => pure (some p)
      | none =>
        let known := ", ".intercalate (Preset.all.map Preset.word)
        throw (.reason s!"Unknown preset '{word}'. Valid options: {known}")
  let file ← Settings.loadAny (m := m) o.settingsFile
  return Settings.layered preset file given

/-- Write an example settings file into the working directory. -/
def writeExample (force : Bool) : Work m Outcome := do
  let target := FilePath.join (← Host.workingDirectory (m := m)) ".abi-tools.yaml"
  if !force then
    if ← Host.isPresent (m := m) target then
      throw (.reason s!"{target} already exists. Use --force to overwrite it.")
  Command.writeFile "failed to write" target Settings.commentedText.toUTF8
  ExceptT.lift (Host.note ("Created " ++ target))
  return .success

/-- Write the schema of settings files to a file or to standard output. -/
def writeSchema (output : Option String) : Work m Outcome := do
  match output with
  | some path =>
    Command.writeFile "failed to write" path Settings.Schema.text.toUTF8
    ExceptT.lift (Host.note ("Schema written to " ++ path))
  | none => ExceptT.lift (Host.printLine Settings.Schema.text)
  return .success

namespace Invocation

/-- Carry out what was asked for. -/
def run (i : Invocation) : Work m Outcome := do
  match i.request with
  | .dump o => (o.job (← settingsUnder i.options o.given)).run
  | .merge o => (o.job (← settingsUnder i.options o.given)).run
  | .validate job => job.run
  | .diff o => (o.job (← settingsUnder i.options (o.given i.options))).run
  | .example force => writeExample force
  | .schema output => writeSchema output

end Invocation

/-- Carry out a command line and answer with an exit code. -/
def perform (arguments : List String) : m Nat := do
  match Invocation.ofArguments (← Host.environment? settingsVariable) arguments with
  | .error .version =>
    Host.printLine versionText
    return 0
  | .error .help =>
    Host.printLine usageText
    return 0
  | .error .usage =>
    Host.note usageText
    return 2
  | .ok invocation =>
    match ← (invocation.run (m := m)).run with
    | .ok outcome => return outcome.exitCode
    | .error failure =>
      Host.note ("Error: " ++ failure.message)
      return Outcome.failed.exitCode

end HeaderAbi.CommandLine
