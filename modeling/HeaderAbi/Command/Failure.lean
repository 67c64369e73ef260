import HeaderAbi.Error

/-!
# Failures of commands

A command that cannot do its work says so with a chain of texts, from what it was doing to what went
wrong.
-/

namespace HeaderAbi

namespace Error

/-- The texts that follow the message of an error down to its cause. -/
def causes : Error → List String
  | .file _ reason _ => [reason]
  | e => e.detail?.toList

end Error

/-- Why a command could not do its work. -/
inductive Failure where
  | error (e : Error)
  /-- A reason in words. -/
  | reason (text : String)
  /-- What was being done when the failure arose. -/
  | within (message : String) (inner : Failure)
deriving Inhabited

namespace Failure

/-- The texts of a failure, outermost first. -/
def texts : Failure → List String
  | .error e => e.message :: e.causes
  | .reason text => [text]
  | .within message inner => message :: inner.texts

/-- A failure as one line. -/
def message (f : Failure) : String := ": ".intercalate f.texts

/-- The error inside a failure. -/
def error? : Failure → Option Error
  | .error e => some e
  | .reason _ => none
  | .within _ inner => inner.error?

/-- A dump that cannot be loaded. -/
def load (path : String) (e : Error) : Failure :=
  .within s!"Load failed for {path}: {e.message}" (.error e)

/-- Facts or dumps that cannot be put together. -/
def extraction (e : Error) : Failure :=
  .within ("Extraction failed: " ++ e.message) (.error e)

end Failure

end HeaderAbi
