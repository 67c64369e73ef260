import HeaderAbi.Command.Failure
import HeaderAbi.Command.Outcome
import HeaderAbi.Dump.Content
import HeaderAbi.Host.Basic
import HeaderAbi.Settings.Check

/-!
# Parts of commands

What several commands do: refuse a job with complaints, load a dump, write a text or a dump.
-/

namespace HeaderAbi

/-- A command: work on a machine that may fail. -/
abbrev Work (m : Type → Type) (α : Type) := ExceptT Failure m α

namespace Command

variable {m : Type → Type} [Monad m] [Host m]

/-- Refuse a job about which there are complaints. -/
def check (paths : List String) (complaints : (String → Bool) → List Complaint) : Work m Unit := do
  let present ← Host.presentAmong (m := m) paths
  match Complaint.error? (complaints present.contains) with
  | some e => throw (.error e)
  | none => return ()

/-- The snapshot that a dump file holds. -/
def loadDump (path : String) : Work m Snapshot := do
  match ← Host.readFile (m := m) path with
  | .error fault => throw (.load path (.file (some path) fault.reason fault.notFound))
  | .ok bytes =>
    match Snapshot.decode bytes with
    | .ok s => return s
    | .error e => throw (.load path (e.within ("reading " ++ path)))

/-- Write a file; `doing` says what for. -/
def writeFile (doing path : String) (bytes : ByteArray) : Work m Unit := do
  match ← Host.writeFile (m := m) path bytes with
  | .error fault => throw (.within s!"{doing} {path}" (.reason fault.reason))
  | .ok () => return ()

/-- Write a text to a file, or as a line to standard output. -/
def writeText (text : String) (output : Option String) : Work m Unit :=
  match output with
  | some path => writeFile "Failed to write output to" path text.toUTF8
  | none => ExceptT.lift (Host.printLine text)

/-- Write a dump to a file, whose extension decides the form, or to standard output.  Bytes that are
no text are kept from a terminal. -/
def writeDump (s : Snapshot) (output : Option String) (settings : DumpSettings) : Work m Unit := do
  match output with
  | some path =>
    let format := DumpFormat.forPath path settings.format
    writeFile "Failed to write dump to" path (s.encode format settings.pretty)
  | none =>
    let format := settings.format
    if !format.isText then
      if ← Host.isTerminal (m := m) then
        throw (.reason "Refusing to write a binary dump to a terminal; use --output")
    let bytes := s.encode format settings.pretty
    ExceptT.lift (Host.print (if format.isText then bytes ++ "\n".toUTF8 else bytes))

end Command

end HeaderAbi
