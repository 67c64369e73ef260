import HeaderAbi.Error
import HeaderAbi.Pattern.Parser
import HeaderAbi.Settings.Basic

/-!
# Checking settings and jobs

A job is a command with its files and the settings it runs under.  `complaints` lists everything
that is wrong with settings or with a job before any work is done.  Whether a path leads anywhere is
a question to the machine; the answer is the argument `there`.
-/

namespace HeaderAbi

/-- Something wrong with settings or with a job. -/
inductive Complaint where
  | noPattern (index : Nat) (text : String)
  | noDirectory (path : String)
  | blankTitle
  | noItems
  /-- Verdicts are to fail and not to fail. -/
  | contradiction
  | noReference (path : String)
  | noCandidate (path : String)
  | noFacts
  | factsMissing (index : Nat) (path : String)
  | tooFewDumps
  | dumpMissing (index : Nat) (path : String)
deriving DecidableEq, Inhabited

namespace Complaint

/-- The field or argument complained about. -/
def field : Complaint → String
  | .noPattern i _ => s!"diff.ignore_patterns[{i}]"
  | .noDirectory _ => "output.file"
  | .blankTitle => "output.title"
  | .noItems => "filtering.max_items"
  | .contradiction => "behavior.fail_on_extension"
  | .noReference _ => "paths.old"
  | .noCandidate _ => "paths.new"
  | .noFacts | .tooFewDumps => "inputs"
  | .factsMissing i _ | .dumpMissing i _ => s!"inputs[{i}]"

def message : Complaint → String
  | .noPattern _ text => s!"Invalid regular expression '{text}'"
  | .noDirectory path => "Parent directory does not exist: " ++ path
  | .blankTitle => "Title must not be blank"
  | .noItems => "Max items must be at least 1 (omit it to show everything)"
  | .contradiction => "Cannot fail on extensions in advice-only mode"
  | .noReference path | .noCandidate path => "File not found: " ++ path
  | .noFacts => "At least one facts file is required"
  | .factsMissing _ path => "Facts file not found: " ++ path
  | .tooFewDumps => "Merging requires at least 2 dumps"
  | .dumpMissing _ path => "Dump file not found: " ++ path

/-- All complaints as one error; none for no complaints. -/
def error? (complaints : List Complaint) : Option Error :=
  if complaints.isEmpty then none
  else some (.settings ("; ".intercalate (complaints.map fun c => c.field ++ ": " ++ c.message)))

/-- A complaint, if something is the case. -/
def when (wrong : Bool) (c : Complaint) : List Complaint := if wrong then [c] else []

/-- The complaints about the paths that lead nowhere. -/
def missing (there : String → Bool) (complaint : Nat → String → Complaint)
    (paths : List String) : List Complaint :=
  paths.zipIdx.filterMap fun (path, i) => if there path then none else some (complaint i path)

end Complaint

namespace ComparisonSettings

def complaints (s : ComparisonSettings) : List Complaint :=
  s.ignored.zipIdx.filterMap fun (text, i) =>
    if (Pattern.parse? text).isSome then none else some (.noPattern i text)

end ComparisonSettings

namespace OutputSettings

/-- The directory that must be there for the report to be written. -/
def directory? (s : OutputSettings) : Option String :=
  (s.file.bind FilePath.parent?).filter fun p => !p.isEmpty

def complaints (there : String → Bool) (s : OutputSettings) : List Complaint :=
  (match s.directory? with
    | some p => Complaint.when (!there p) (.noDirectory p)
    | none => []) ++
  Complaint.when (s.title.any fun t => t.toList.all Text.isBlank) .blankTitle

end OutputSettings

namespace FilterSettings

def complaints (s : FilterSettings) : List Complaint :=
  Complaint.when (s.maxItems == some 0) .noItems

end FilterSettings

namespace BehaviorSettings

def complaints (s : BehaviorSettings) : List Complaint :=
  Complaint.when (s.adviceOnly && s.failOnExtension) .contradiction

end BehaviorSettings

namespace Settings

def complaints (there : String → Bool) (s : Settings) : List Complaint :=
  s.comparison.complaints ++ s.output.complaints there ++ s.filter.complaints ++
    s.behavior.complaints

end Settings

/-- Compare two dumps. -/
structure DiffJob where
  old : String
  new : String
  settings : Settings := {}
deriving DecidableEq, Inhabited

namespace DiffJob

def complaints (there : String → Bool) (j : DiffJob) : List Complaint :=
  let needed := !j.settings.behavior.allowMissingReference
  Complaint.when (needed && !there j.old) (.noReference j.old) ++
    Complaint.when (!there j.new) (.noCandidate j.new) ++ j.settings.complaints there

/-- The paths whose presence matters. -/
def paths (j : DiffJob) : List String :=
  [j.old, j.new] ++ j.settings.output.directory?.toList

end DiffJob

/-- Extract a dump from facts files. -/
structure DumpJob where
  inputs : List String
  /-- The dump to write; none for standard output. -/
  output : Option String := none
  dump : DumpSettings := {}
deriving DecidableEq, Inhabited

namespace DumpJob

def complaints (there : String → Bool) (j : DumpJob) : List Complaint :=
  Complaint.when j.inputs.isEmpty .noFacts ++ Complaint.missing there .factsMissing j.inputs

end DumpJob

/-- Merge dumps into one. -/
structure MergeJob where
  inputs : List String
  /-- The dump to write; none for standard output. -/
  output : Option String := none
  dump : DumpSettings := {}
deriving DecidableEq, Inhabited

namespace MergeJob

def complaints (there : String → Bool) (j : MergeJob) : List Complaint :=
  Complaint.when (j.inputs.length < 2) .tooFewDumps ++ Complaint.missing there .dumpMissing j.inputs

end MergeJob

end HeaderAbi
