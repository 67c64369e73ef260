import HeaderAbi.Command.Basic
import HeaderAbi.Diff.Engine

/-!
# Comparing dumps

`DiffJob.run` compares two dump files and reports the differences.
-/

namespace HeaderAbi.DiffJob

variable {m : Type → Type} [Monad m] [Host m]

/-- The reference, and whether an empty interface stands for one that is not there. -/
def loadReference (j : DiffJob) : Work m (Snapshot × Bool) := do
  if j.settings.behavior.allowMissingReference then
    if !(← Host.isPresent (m := m) j.old) then return (.empty, true)
  return (← Command.loadDump j.old, false)

/-- The engine that the settings describe. -/
def engine (j : DiffJob) : Except Error Engine :=
  Engine.ofPatterns j.settings.comparison.matching j.settings.comparison.ignored

/-- The options of the report on a comparison made at some time. -/
def reportOptions (j : DiffJob) (time : String) : ReportOptions where
  minImpact := j.settings.filter.minImpact
  maxItems := j.settings.filter.maxItems
  title := j.settings.output.title
  oldPath := some j.old
  newPath := some j.new
  generatedAt := time

/-- A report is coloured on a terminal, unless the user or the environment is against it. -/
def isColoured (j : DiffJob) : m Bool := do
  if j.settings.output.noColor || j.settings.output.file.isSome then return false
  return (← Host.isTerminal) && (← Host.environment? "NO_COLOR").isNone

/-- Write the report on a diff. -/
def report (j : DiffJob) (d : Diff) : Work m Unit := do
  let options := j.reportOptions (← Host.time (m := m))
  let coloured ← isColoured (m := m) j
  let measure ← Host.measure (m := m)
  let text := (Report.ofDiff options d).render measure j.settings.output.format coloured options
  Command.writeText text j.settings.output.file

def run (j : DiffJob) : Work m Outcome := do
  Command.check j.paths j.complaints
  let (old, missing) ← j.loadReference
  let new ← Command.loadDump j.new
  match j.engine with
  | .error e => throw (.within "Failed to initialize diff engine" (.error e))
  | .ok engine =>
    let d := engine.compare old new
    j.report d
    return .ofComparison j.settings.behavior missing d

end HeaderAbi.DiffJob
