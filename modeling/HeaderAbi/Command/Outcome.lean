import HeaderAbi.Diff.Entry
import HeaderAbi.Settings.Basic

/-!
# Outcomes

How a command ends, for the scripts that call it.  The outcome of a comparison depends on the diff
and on the behavior that the user chose.
-/

namespace HeaderAbi

/-- How a command ends. -/
inductive Outcome where
  | success
  /-- Some change breaks binaries. -/
  | incompatible
  /-- The interface has only grown, and that was not to be. -/
  | extended
  /-- The command could not do its work. -/
  | failed
deriving DecidableEq, Inhabited

namespace Outcome

def all : List Outcome := [.success, .incompatible, .extended, .failed]

def exitCode : Outcome → Nat
  | .success => 0
  | .incompatible => 1
  | .extended => 2
  | .failed => 3

/-- The outcome of a comparison with a reference that was there. -/
def ofDiff (b : BehaviorSettings) (d : Diff) : Outcome :=
  if b.adviceOnly then .success
  else if d.hasBreaking then .incompatible
  else if b.failOnExtension && d.hasExtensions then .extended
  else .success

/-- The outcome of a comparison.  Without a reference there is nothing to break. -/
def ofComparison (b : BehaviorSettings) (referenceMissing : Bool) (d : Diff) : Outcome :=
  if referenceMissing then .success else ofDiff b d

end Outcome

end HeaderAbi
