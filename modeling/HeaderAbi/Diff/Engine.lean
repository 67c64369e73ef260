import HeaderAbi.Diff.Compare
import HeaderAbi.Error
import HeaderAbi.Pattern.Parser

/-!
# Engines

An `Engine` is a way of matching functions with the patterns of identifiers to pass over.
-/

namespace HeaderAbi

/-- How snapshots are compared. -/
structure Engine where
  matching : Matching := .byUid
  /-- Identifiers that match one of these are passed over. -/
  ignored : List Pattern := []
deriving Inhabited

namespace Engine

/-- The patterns that some texts spell; the first that is no pattern is an error. -/
def patterns (texts : List String) : Except Error (List Pattern) :=
  texts.mapM fun t =>
    match Pattern.parse? t with
    | some p => .ok p
    | none => .error (.settings "invalid ignore pattern: ")

/-- The engine that passes over identifiers matching some patterns. -/
def ofPatterns (matching : Matching) (texts : List String) : Except Error Engine := do
  return { matching, ignored := ← patterns texts }

/-- An identifier is passed over. -/
def ignores (e : Engine) (u : Uid) : Bool :=
  e.ignored.any (·.occursIn u.text)

def compare (e : Engine) (old new : Snapshot) : Diff :=
  old.compare e.matching e.ignores new

end Engine

end HeaderAbi
