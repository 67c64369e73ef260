import HeaderAbi.Category
import HeaderAbi.Text.Quoted

/-!
# Errors

Everything that can go wrong, as data.  Each family of faults has one function that words it, and
`Error` adds the context in which a fault arose.  Contexts chain outermost first.
-/

namespace HeaderAbi

/-- A snapshot that cannot be built or merged. -/
inductive Fault where
  /-- Two entities of one category have the same identifier. -/
  | duplicate (category : Category) (uid : String) (unit : Option String)
  /-- An entity refers to a type that is not there. -/
  | unresolved (category : Category) (referrer target : String)
  /-- Two units declare an entity differently. -/
  | conflicting (category : Category) (uid firstUnit secondUnit : String)
  /-- The parts of a record do not fit its layout. -/
  | layout (uid reason : String)
deriving DecidableEq, Inhabited

namespace Fault

def message : Fault → String
  | .duplicate category uid unit =>
    let place := match unit with
      | none => ""
      | some u => s!" in '{u}'"
    s!"duplicate {category.noun} declaration '{uid}'{place}"
  | .unresolved category referrer target =>
    s!"{category.noun} '{referrer}' references unknown type '{target}'"
  | .conflicting category uid firstUnit secondUnit =>
    s!"conflicting {category.noun} declaration '{uid}' between '{firstUnit}' and '{secondUnit}'"
  | .layout uid reason => s!"record '{uid}' has an invalid layout: {reason}"

end Fault

/-- Why a dump cannot be read. -/
inductive Malformed where
  | emptyInput
  /-- The text or payload does not have the form of a dump. -/
  | unreadable
  | missingVersion
  | truncatedHeader (size : Nat)
  | badMagic
  | checksumMismatch
  | trailingBytes (count : Nat)
  | versionsDisagree (header payload : UInt32)
  /-- The dump describes no valid snapshot. -/
  | contents (fault : Fault)
  /-- A reason in words. -/
  | because (reason : String)
deriving DecidableEq, Inhabited

namespace Malformed

def message : Malformed → String
  | .emptyInput => "empty input"
  | .unreadable => "not in the form of a dump"
  | .missingVersion => "missing or non-numeric format_version"
  | .truncatedHeader size => s!"truncated header ({size} bytes)"
  | .badMagic => "bad magic bytes"
  | .checksumMismatch => "checksum mismatch"
  | .trailingBytes count => s!"{count} trailing bytes after payload"
  | .versionsDisagree header payload =>
    s!"header version {header} disagrees with payload version {payload}"
  | .contents fault => fault.message
  | .because reason => reason

end Malformed

/-- A dump that cannot be used. -/
inductive DumpFault where
  | unsupportedVersion (found : UInt32) (supported : List UInt32)
  | malformed (reason : Malformed)
  | unknownFormat (name : String)
deriving DecidableEq, Inhabited

namespace DumpFault

def message : DumpFault → String
  | .unsupportedVersion found supported =>
    let known := ", ".intercalate (supported.map toString)
    s!"Unsupported dump version: {found} (supported: {known})"
  | .malformed reason => "Malformed dump: " ++ reason.message
  | .unknownFormat name => "Unknown dump format: " ++ name

end DumpFault

/-- Facts that cannot be used. -/
inductive FactsFault where
  | unsupportedVersion (found supported : UInt32)
  /-- The text is no facts document; the reason is empty when it is no JSON of the right shape. -/
  | unreadable (reason : String)
  | declaration (name reason : String)
deriving DecidableEq, Inhabited

namespace FactsFault

/-- The reason given when a facts document does not say its version. -/
def missingVersion : FactsFault :=
  .unreadable "missing or non-numeric facts_version"

def message : FactsFault → String
  | .unsupportedVersion found supported =>
    s!"Unsupported facts version: {found} (supported: {supported})"
  | .unreadable reason => "Invalid facts JSON: " ++ reason
  | .declaration name reason => s!"Invalid declaration '{name}': {reason}"

end FactsFault

/-- A report that cannot be written. -/
inductive ReportFault where
  | encoding (reason : String)
  | unsupportedFormat (name : String)
deriving DecidableEq, Inhabited

namespace ReportFault

def message : ReportFault → String
  | .encoding reason => "JSON serialization failed: " ++ reason
  | .unsupportedFormat name => "Output format not supported for this operation: " ++ name

end ReportFault

/-- A fault together with the context in which it arose. -/
inductive Error where
  | model (context : String) (fault : Fault)
  | dump (context : String) (fault : DumpFault)
  | extraction (context : String) (fault : FactsFault)
  | report (context : String) (fault : ReportFault)
  /-- A file that cannot be read or written; `notFound` tells a missing file from other failures. -/
  | file (path : Option String) (reason : String) (notFound : Bool)
  | settings (reason : String)
  | validation (reason : String)
deriving DecidableEq, Inhabited

namespace Error

/-- A fault of the model, in the context of its own words. -/
def ofFault (fault : Fault) : Error :=
  .model fault.message fault

/-- A declaration that cannot be mapped, in the context of its unit. -/
def declaration (unit name reason : String) : Error :=
  .extraction ("in unit " ++ unit) (.declaration name reason)

/-- A missing value. -/
def missing (what : String) : Error :=
  .validation what

/-- A context before an existing one; an empty one disappears. -/
def chain (outer inner : String) : String :=
  if inner.isEmpty then outer else outer ++ ": " ++ inner

/-- The same error seen from further out. -/
def within (outer : String) : Error → Error
  | .model context fault => .model (chain outer context) fault
  | .dump context fault => .dump (chain outer context) fault
  | .extraction context fault => .extraction (chain outer context) fault
  | .report context fault => .report (chain outer context) fault
  | .file path reason notFound => .file path (chain outer reason) notFound
  | .settings reason => .settings (chain outer reason)
  | .validation reason => .validation (chain outer reason)

/-- The wording of an error: its family and its context. -/
def message : Error → String
  | .model context _ => "Invalid ABI model: " ++ context
  | .dump context _ => "Failed to load ABI dump: " ++ context
  | .extraction context _ => "Extraction failed: " ++ context
  | .report context _ => "Report generation failed: " ++ context
  | .file path reason _ =>
    let place := match path with
      | none => "None"
      | some p => "Some(" ++ Text.quoted p ++ ")"
    s!"IO error at {place}: {reason}"
  | .settings reason => "Invalid configuration: " ++ reason
  | .validation reason => "Validation failed: " ++ reason

/-- The wording of the fault inside an error of one of the four families with a context. -/
def detail? : Error → Option String
  | .model _ fault => some fault.message
  | .dump _ fault => some fault.message
  | .extraction _ fault => some fault.message
  | .report _ fault => some fault.message
  | _ => none

/-- A missing file. -/
def isNotFound : Error → Bool
  | .file _ _ notFound => notFound
  | _ => false

/-- An error that means that a dump itself cannot be used. -/
def isDumpError : Error → Bool
  | .dump _ (.malformed _) => true
  | .dump _ (.unsupportedVersion ..) => true
  | _ => false

/-- An error of the model. -/
def isModel : Error → Bool
  | .model .. => true
  | _ => false

end Error

end HeaderAbi
