import HeaderAbi.Json.Printer
import HeaderAbi.Report.Basic

/-!
# Reports for machines

Two JSON forms of a report: the tool's own, and SARIF 2.1.0, which code scanning services read.
-/

namespace HeaderAbi

namespace Report

/-- The report in the tool's own form; `withEntries` tells whether the entries are part of it. -/
def jsonData (withEntries : Bool) (o : ReportOptions) (r : Report) : Data :=
  .object ([("metadata", .object [
      ("tool", .object [("name", .text "abi-tools"), ("version", .text "0.1.0")]),
      ("title", .text o.heading), ("generated_at", .text o.generatedAt),
      ("old_dump", .ofOption .text o.oldPath), ("new_dump", .ofOption .text o.newPath)]),
    ("verdict", .text r.verdict.label), ("summary", r.summary.toData)] ++
    (if withEntries then [("entries", .ofList Entry.toData r.entries)] else []) ++
    [("omitted", .int r.omitted)])

def jsonText (withEntries pretty : Bool) (o : ReportOptions) (r : Report) : String :=
  let d := r.jsonData withEntries o
  if pretty then Json.pretty d else Json.compact d

end Report

namespace Sarif

/-- How grave SARIF takes an impact. -/
def level : Impact → String
  | .breaking => "error"
  | .nonBreaking => "warning"
  | .informational => "note"

/-- The rule that a kind of change falls under. -/
def ruleId : ChangeKind → String
  | .removed => "ABI-TOOLS-001"
  | .added => "ABI-TOOLS-002"
  | .changed => "ABI-TOOLS-003"

def logicalKind : Category → String
  | .records => "type"
  | .enums => "type"
  | .functions => "function"
  | .globals => "variable"

def message (text : String) : Data := .object [("text", .text text)]

/-- The result of an entry; `artifact` is the path of the new dump. -/
def result (artifact : Option String) (e : Entry) : Data :=
  let physical := artifact.map fun uri =>
    ("physicalLocation", Data.object [("artifactLocation", .object [("uri", .text uri)])])
  let logical := Data.object [("fullyQualifiedName", .text e.location),
    ("kind", .text (logicalKind e.category))]
  .object [("ruleId", .text (ruleId e.kind)), ("level", .text (level e.impact)),
    ("message", message (e.location ++ ": " ++ e.change.detail)),
    ("locations", .list [.object (physical.toList ++ [("logicalLocations", .list [logical])])])]

/-- The description of a rule. -/
def rule (kind : ChangeKind) (name text : String) (severity : Impact) : Data :=
  .object [("id", .text (ruleId kind)), ("name", .text name), ("shortDescription", message text),
    ("defaultConfiguration", .object [("level", .text (level severity))])]

def rules : List Data := [
  rule .removed "AbiEntityRemoved" "An ABI entity or member present in the reference is gone"
    .breaking,
  rule .added "AbiEntityAdded" "A new ABI entity or member was introduced" .nonBreaking,
  rule .changed "AbiEntityChanged" "Layout, signature, value or linkage of an ABI entity changed"
    .breaking]

end Sarif

namespace Report

/-- The report in SARIF; `withInformational` tells whether informational entries are part of it. -/
def sarifData (withInformational : Bool) (o : ReportOptions) (r : Report) : Data :=
  let shown := r.entries.filter fun e => withInformational || e.impact ≠ .informational
  let driver := Data.object [("name", .text "abi-tools"), ("version", .text "0.1.0"),
    ("rules", .list Sarif.rules)]
  .object [("$schema", .text "https://json.schemastore.org/sarif-2.1.0.json"),
    ("version", .text "2.1.0"),
    ("runs", .list [.object [("tool", .object [("driver", driver)]),
      ("results", .ofList (Sarif.result o.newPath) shown)]])]

def sarifText (withInformational : Bool) (o : ReportOptions) (r : Report) : String :=
  Json.pretty (r.sarifData withInformational o)

end Report

end HeaderAbi
