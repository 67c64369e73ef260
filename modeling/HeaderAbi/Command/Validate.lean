import HeaderAbi.Command.Basic
import HeaderAbi.Snapshot.Fingerprint

/-!
# Validating dumps

A dump that loads is valid; `ValidateJob.run` says what it holds.
-/

namespace HeaderAbi

/-- The form of the answer. -/
inductive ValidateFormat where
  | text
  | json
deriving DecidableEq, Inhabited

namespace ValidateFormat

def all : List ValidateFormat := [.text, .json]

def word : ValidateFormat → String
  | .text => "text"
  | .json => "json"

def ofWord? (word : String) : Option ValidateFormat := all.find? (·.word == word)

end ValidateFormat

/-- Say what a dump holds. -/
structure ValidateJob where
  path : String
  format : ValidateFormat := .text
  /-- The file to write; none for standard output. -/
  output : Option String := none
deriving DecidableEq, Inhabited

namespace ValidateJob

/-- What a snapshot holds, for machines. -/
def data (path : String) (s : Snapshot) : Data :=
  .object [("path", .text path), ("valid", .bool true), ("format_version", .ofUInt32 formatVersion),
    ("content_hash", .text s.fingerprintText), ("stats", s.statistics.toData)]

/-- What a snapshot holds, for readers. -/
def lines (path : String) (s : Snapshot) : List String :=
  let n := s.statistics
  [s!"{path}: valid (format version {formatVersion})",
    s!"  content hash:  {s.fingerprintText}",
    s!"  records:       {n.records} ({n.opaqueRecords} opaque, " ++
      s!"{n.templateInstantiations} template instantiations)",
    s!"  enums:         {n.enums} ({n.enumerators} enumerators)",
    s!"  functions:     {n.functions} ({n.virtualFunctions} virtual)",
    s!"  global vars:   {n.globals}"]

/-- The answer for a snapshot. -/
def text (j : ValidateJob) (s : Snapshot) : String :=
  match j.format with
  | .text => "\n".intercalate (lines j.path s)
  | .json => Json.pretty (data j.path s)

variable {m : Type → Type} [Monad m] [Host m]

def run (j : ValidateJob) : Work m Outcome := do
  let s ← Command.loadDump j.path
  Command.writeText (j.text s) j.output
  return .success

end ValidateJob

end HeaderAbi
