import HeaderAbi.Diff.FunctionChanges
import HeaderAbi.Dump.Format
import HeaderAbi.Report.Format

/-!
# Settings

What a user can choose, in five sections: how snapshots are compared, where a report goes and what
it looks like, what it shows, which exit code a comparison has, and how dumps are written.  Every
field has a usual value; `{}` is the settings of a user who chose nothing.
-/

namespace HeaderAbi

/-- How snapshots are compared. -/
structure ComparisonSettings where
  matching : Matching := .byUid
  /-- Compare the categories concurrently. -/
  parallel : Bool := true
  /-- Regular expressions on identifiers whose entries are dropped. -/
  ignored : List String := []
deriving DecidableEq, Inhabited

/-- Where a report goes and what it looks like. -/
structure OutputSettings where
  format : ReportFormat := .summary
  /-- The file to write; none for standard output. -/
  file : Option String := none
  noColor : Bool := false
  title : Option String := none
deriving DecidableEq, Inhabited

/-- What a report shows. -/
structure FilterSettings where
  minImpact : Impact := .informational
  maxItems : Option Nat := none
deriving DecidableEq, Inhabited

/-- Which exit code a comparison has. -/
structure BehaviorSettings where
  /-- An interface that has only grown is a failure too. -/
  failOnExtension : Bool := false
  /-- No verdict is a failure. -/
  adviceOnly : Bool := false
  /-- A reference that is not there stands for an empty interface. -/
  allowMissingReference : Bool := false
  quiet : Bool := false
deriving DecidableEq, Inhabited

/-- How dumps are written. -/
structure DumpSettings where
  /-- The form of a dump whose path does not decide it. -/
  format : DumpFormat := .json
  /-- Lay JSON out over several lines. -/
  pretty : Bool := true
  /-- Extract units concurrently. -/
  parallel : Bool := true
deriving DecidableEq, Inhabited

/-- All settings. -/
structure Settings where
  comparison : ComparisonSettings := {}
  output : OutputSettings := {}
  filter : FilterSettings := {}
  behavior : BehaviorSettings := {}
  dump : DumpSettings := {}
deriving DecidableEq, Inhabited

end HeaderAbi
