import HeaderAbi.Command.Validate
import HeaderAbi.CommandLine.Options
import HeaderAbi.Settings.Check
import HeaderAbi.Settings.Preset

/-!
# Invocations

What a command line asks for: options that every command has, and a command with its own.  An option
that was not given is `none`, so that it can be told from one given with its usual value.

`Invocation.ofArguments` reads the arguments; `DiffOptions.given` and its kin are the settings that
the options make.
-/

namespace HeaderAbi.CommandLine

/-- The options of every command. -/
structure GlobalOptions where
  verbose : Bool := false
  quiet : Bool := false
  noColor : Bool := false
  /-- The settings file to use. -/
  settingsFile : Option String := none
  preset : Option String := none
deriving DecidableEq, Inhabited

structure DumpOptions where
  inputs : List String
  output : Option String := none
  format : Option DumpFormat := none
  compact : Bool := false
  sequential : Bool := false
deriving DecidableEq, Inhabited

structure MergeOptions where
  inputs : List String
  output : Option String := none
  format : Option DumpFormat := none
  compact : Bool := false
deriving DecidableEq, Inhabited

structure DiffOptions where
  old : String
  new : String
  format : Option ReportFormat := none
  file : Option String := none
  title : Option String := none
  matching : Option Matching := none
  ignored : List String := []
  minImpact : Option Impact := none
  maxItems : Option Nat := none
  failOnExtension : Bool := false
  adviceOnly : Bool := false
  allowMissingReference : Bool := false
  sequential : Bool := false
deriving DecidableEq, Inhabited

/-- A command with its options. -/
inductive Request where
  | dump (options : DumpOptions)
  | merge (options : MergeOptions)
  | validate (job : ValidateJob)
  | diff (options : DiffOptions)
  /-- Write an example settings file into the working directory. -/
  | example (force : Bool)
  /-- Write the schema of settings files. -/
  | schema (output : Option String)
deriving Inhabited

/-- What a command line asks for. -/
structure Invocation where
  options : GlobalOptions
  request : Request
deriving Inhabited

/-! ### The settings that options make -/

namespace DumpOptions

def given (o : DumpOptions) : Settings :=
  { dump := { format := o.format.getD .json, pretty := !o.compact, parallel := !o.sequential } }

/-- The job under the settings in force. -/
def job (o : DumpOptions) (s : Settings) : DumpJob := ⟨o.inputs, o.output, s.dump⟩

end DumpOptions

namespace MergeOptions

def given (o : MergeOptions) : Settings :=
  { dump := { format := o.format.getD .json, pretty := !o.compact } }

/-- The job under the settings in force. -/
def job (o : MergeOptions) (s : Settings) : MergeJob := ⟨o.inputs, o.output, s.dump⟩

end MergeOptions

namespace DiffOptions

def given (o : DiffOptions) (g : GlobalOptions) : Settings where
  comparison :=
    { matching := o.matching.getD .byUid, parallel := !o.sequential, ignored := o.ignored }
  output :=
    { format := o.format.getD .summary, file := o.file, noColor := g.noColor, title := o.title }
  filter := { minImpact := o.minImpact.getD .informational, maxItems := o.maxItems }
  behavior :=
    { failOnExtension := o.failOnExtension, adviceOnly := o.adviceOnly,
      allowMissingReference := o.allowMissingReference, quiet := g.quiet }

/-- The job under the settings in force. -/
def job (o : DiffOptions) (s : Settings) : DiffJob := ⟨o.old, o.new, s⟩

end DiffOptions

/-! ### The options of each command -/

/-- A switch. -/
def switch (name : String) (letter : Option Char) : OptionForm :=
  { name, letter, takesValue := false }

/-- An option whose value is a path. -/
def pathOption (name : String) (letter : Option Char) : OptionForm :=
  { name, letter, accepts := fun v => !v.isEmpty }

/-- An option whose value is one of some words. -/
def wordOption {α : Type} (name : String) (letter : Option Char) (read : String → Option α) :
    OptionForm :=
  { name, letter, accepts := fun v => (read v).isSome }

/-- The impact that a word of a command line names. -/
def impactOfWord? (word : String) : Option Impact :=
  match word with
  | "informational" => some .informational
  | "non-breaking" => some .nonBreaking
  | "breaking" => some .breaking
  | _ => none

/-- The count that digits write, perhaps after a plus sign. -/
def countOfDigits? (word : String) : Option Nat :=
  let digits := match word.toList with
    | '+' :: rest => rest
    | cs => cs
  if digits.isEmpty || !digits.all Char.isDigit then none
  else
    let n := digits.foldl (fun n c => 10 * n + (c.toNat - '0'.toNat)) 0
    if n < 0x10000000000000000 then some n else none

def helpForm : OptionForm := switch "help" (some 'h')

def globalForms : List OptionForm :=
  [switch "verbose" (some 'v'), switch "quiet" (some 'q'), switch "no-color" none,
    pathOption "config" none, { name := "preset" }, helpForm]

def dumpForms : List OptionForm :=
  [pathOption "output" (some 'o'), wordOption "format" (some 'f') DumpFormat.ofName?,
    switch "compact" none, switch "sequential" none]

def mergeForms : List OptionForm :=
  [pathOption "output" (some 'o'), wordOption "format" (some 'f') DumpFormat.ofName?,
    switch "compact" none]

def validateForms : List OptionForm :=
  [wordOption "output" (some 'o') ValidateFormat.ofWord?, pathOption "output-file" (some 'O')]

def diffForms : List OptionForm :=
  [wordOption "output" (some 'o') ReportFormat.ofWord?, pathOption "output-file" (some 'O'),
    { name := "title" }, wordOption "function-matching" none Matching.ofWord?,
    { name := "ignore", repeats := true }, wordOption "min-impact" none impactOfWord?,
    wordOption "max-items" none countOfDigits?, switch "fail-on-extension" none,
    switch "advice-only" none, switch "allow-missing-reference" none, switch "sequential" none]

def initForms : List OptionForm := [switch "force" none]

def schemaForms : List OptionForm := [pathOption "output" (some 'o')]

/-! ### From arguments to invocations -/

namespace Request

/-- The request that the options and words of a command make. -/
def ofGiven (command : String) (g : Given) : Except Refusal Request :=
  let arePaths := g.words.all (!·.isEmpty)
  match command, g.words with
  | "dump", inputs =>
    if inputs.isEmpty || !arePaths then .error .usage
    else .ok (.dump {
      inputs
      output := g.value? "output"
      format := (g.value? "format").bind DumpFormat.ofName?
      compact := g.has "compact"
      sequential := g.has "sequential" })
  | "merge", inputs =>
    if inputs.isEmpty || !arePaths || g.runs.any (·.length < 2) then .error .usage
    else .ok (.merge {
      inputs
      output := g.value? "output"
      format := (g.value? "format").bind DumpFormat.ofName?
      compact := g.has "compact" })
  | "validate", [path] =>
    if !arePaths then .error .usage
    else .ok (.validate {
      path
      format := ((g.value? "output").bind ValidateFormat.ofWord?).getD .text
      output := g.value? "output-file" })
  | "diff", [old, new] =>
    if !arePaths then .error .usage
    else .ok (.diff {
      old
      new
      format := (g.value? "output").bind ReportFormat.ofWord?
      file := g.value? "output-file"
      title := g.value? "title"
      matching := (g.value? "function-matching").bind Matching.ofWord?
      ignored := g.values "ignore"
      minImpact := (g.value? "min-impact").bind impactOfWord?
      maxItems := (g.value? "max-items").bind countOfDigits?
      failOnExtension := g.has "fail-on-extension"
      adviceOnly := g.has "advice-only"
      allowMissingReference := g.has "allow-missing-reference"
      sequential := g.has "sequential" })
  | "init", [] => .ok (.example (g.has "force"))
  | "schema", [] => .ok (.schema (g.value? "output"))
  | _, _ => .error .usage

/-- The options of a command; none for an unknown command. -/
def forms? : String → Option (List OptionForm)
  | "dump" => some dumpForms
  | "merge" => some mergeForms
  | "validate" => some validateForms
  | "diff" => some diffForms
  | "init" => some initForms
  | "schema" => some schemaForms
  | _ => none

end Request

namespace GlobalOptions

/-- The options given before the command and after it; the latter count more.  The environment names
a settings file where no option does. -/
def ofGiven (environment : Option String) (before after : Given) : GlobalOptions where
  verbose := before.has "verbose" || after.has "verbose"
  quiet := before.has "quiet" || after.has "quiet"
  noColor := before.has "no-color" || after.has "no-color"
  settingsFile := ((after.value? "config").or (before.value? "config")).or environment
  preset := (after.value? "preset").or (before.value? "preset")

end GlobalOptions

/-- The variable of the environment that names a settings file. -/
def settingsVariable : String := "ABI_TOOLS_CONFIG"

namespace Invocation

/-- What arguments ask for.  The name of a settings file that comes from the environment must not be
empty where it would be used. -/
def ofArguments (environment : Option String) (arguments : List String) :
    Except Refusal Invocation := do
  let (before, rest) ← scan (globalForms ++ [switch "version" (some 'V')]) true arguments {}
  match rest with
  | [] => throw .usage
  | command :: rest =>
    if command == "help" then throw .help
    match Request.forms? command with
    | none => throw .usage
    | some forms =>
      let (after, _) ← scan (globalForms ++ forms) false rest {}
      let request ← Request.ofGiven command after
      if environment == some "" && !(before.has "config" && after.has "config") then throw .usage
      return { options := .ofGiven environment before after, request }

end Invocation

end HeaderAbi.CommandLine
