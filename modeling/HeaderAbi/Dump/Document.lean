import HeaderAbi.Facts.Reader
import HeaderAbi.Packed.Entity
import HeaderAbi.Snapshot.Draft

/-!
# Documents

A `Document` is what a dump says: a version, the tool that wrote it, and four lists of entities.  A
snapshot's document lists each category by identifier; a document's snapshot is rebuilt entity by
entity, so that a dump is never trusted.
-/

namespace HeaderAbi

/-- The tool that wrote a dump. -/
structure Producer where
  tool : String
  version : String
deriving DecidableEq, Inhabited

namespace Producer

/-- This tool. -/
def current : Producer := ⟨"abi-tools", "0.1.0"⟩

def toData (p : Producer) : Data :=
  .object [("tool", .text p.tool), ("version", .text p.version)]

def ofData? (d : Data) : Option Producer := do
  let fs ← d.fieldsOf? ["tool", "version"]
  return ⟨← Data.required fs "tool" Data.asText?, ← Data.required fs "version" Data.asText?⟩

def codec : Codec Producer :=
  (Codec.text.pair Codec.text).via (fun (t, v) => ⟨t, v⟩) fun p => (p.tool, p.version)

end Producer

/-- What a dump says. -/
structure Document where
  formatVersion : UInt32
  producer : Producer := .current
  records : List Record := []
  enums : List EnumType := []
  functions : List Function := []
  globals : List GlobalVar := []
deriving DecidableEq, Inhabited

/-- The versions of dumps that can be read. -/
def supportedVersions : List UInt32 := [1]

namespace Document

/-- A snapshot as a document, each list in the order of identifiers. -/
def ofSnapshot (s : Snapshot) : Document where
  formatVersion := HeaderAbi.formatVersion
  records := s.records.sorted
  enums := s.enums.sorted
  functions := s.functions.sorted
  globals := s.globals.sorted

/-- Add every entity to an empty draft and finish it. -/
def rebuild (d : Document) : Except Fault Snapshot := do
  let draft : Draft := {}
  let draft ← draft.addAll d.records
  let draft ← draft.addAll d.enums
  let draft ← draft.addAll d.functions
  let draft ← draft.addAll d.globals
  draft.build

/-- A dump of a version that cannot be read. -/
def unsupported (found : UInt32) : Error :=
  .dump "checking dump version" (.unsupportedVersion found supportedVersions)

/-- The snapshot that a document describes. -/
def toSnapshot (d : Document) : Except Error Snapshot :=
  if supportedVersions.contains d.formatVersion then
    match d.rebuild with
    | .ok s => .ok s
    | .error fault => .error (.dump "validating dump contents" (.malformed (.contents fault)))
  else .error (unsupported d.formatVersion)

def toData (d : Document) : Data :=
  .object [("format_version", .ofUInt32 d.formatVersion), ("producer", d.producer.toData),
    ("records", .ofList Record.toData d.records), ("enums", .ofList EnumType.toData d.enums),
    ("functions", .ofList Function.toData d.functions),
    ("global_vars", .ofList GlobalVar.toData d.globals)]

def ofData? (d : Data) : Option Document := do
  let fs ← d.fieldsOf? ["format_version", "producer", "records", "enums", "functions",
    "global_vars"]
  return {
    formatVersion := ← Data.required fs "format_version" Data.asUInt32?
    producer := ← Data.defaulted fs "producer" Producer.ofData? .current
    records := ← Data.listed fs "records" Record.ofData?
    enums := ← Data.listed fs "enums" EnumType.ofData?
    functions := ← Data.listed fs "functions" Function.ofData?
    globals := ← Data.listed fs "global_vars" GlobalVar.ofData? }

def codec : Codec Document :=
  (Codec.uint32.pair (Producer.codec.pair (Record.codec.list.pair (EnumType.codec.list.pair
    (Function.codec.list.pair GlobalVar.codec.list))))).via
    (fun (v, p, r, e, f, g) => ⟨v, p, r, e, f, g⟩)
    fun d => (d.formatVersion, d.producer, d.records, d.enums, d.functions, d.globals)

end Document

end HeaderAbi
