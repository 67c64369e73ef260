import HeaderAbi.Json.Printer
import HeaderAbi.Settings.Form

/-!
# The schema of settings files

A JSON Schema for settings files, which editors use to check and complete them.  The usual values in
it are those of the settings themselves.  Properties and definitions are in the order of their
names.
-/

namespace HeaderAbi.Settings.Schema

/-- An object with its fields in the order of their keys. -/
def ordered : Data → Data
  | .object fields => .object (fields.mergeSort fun a b => decide (a.1 ≤ b.1))
  | d => d

/-- A record with a description before its other fields. -/
def described (description : String) (fields : List (String × Data)) : Data :=
  .object (("description", .text description) :: fields)

/-- A field whose form is defined elsewhere. -/
def reference (description : String) (usual : Data) (definition : String) : Data :=
  described description [("default", ordered usual),
    ("allOf", .list [.object [("$ref", .text ("#/definitions/" ++ definition))]])]

def flag (description : String) (usual : Bool) : Data :=
  described description [("default", .bool usual), ("type", .text "boolean")]

/-- A field that may be absent. -/
def nullable (description type : String) (more : List (String × Data)) : Data :=
  described description ([("type", .list [.text type, .text "null"])] ++ more)

def texts (description : String) (usual : List String) : Data :=
  described description [("default", .ofList .text usual), ("type", .text "array"),
    ("items", .object [("type", .text "string")])]

/-- A field that takes one of some words, each with its meaning. -/
def choice (description : String) (words : List (String × String)) : Data :=
  described description [("oneOf", .list (words.map fun (word, meaning) =>
    described meaning [("type", .text "string"), ("enum", .list [.text word])]))]

def record (description : String) (properties : List (String × Data)) : Data :=
  described description [("type", .text "object"), ("properties", ordered (.object properties))]

def behavior : Data :=
  let usual : BehaviorSettings := {}
  record "Behavior flags" [
    ("fail_on_extension", flag
      "Exit with code 2 when extensions but no breaking changes are found" usual.failOnExtension),
    ("advice_only", flag "Always exit 0 for verdicts; only errors fail the run" usual.adviceOnly),
    ("allow_missing_reference", flag
      "A missing reference dump means \"no prior ABI\" instead of an error"
      usual.allowMissingReference),
    ("quiet", flag "Suppress non-essential output" usual.quiet)]

def dump : Data :=
  let usual : DumpSettings := {}
  record "Dump writing configuration" [
    ("format", reference "Format used when the output path has no known extension"
      usual.format.toData "DumpFormat"),
    ("pretty", flag "Pretty-print JSON dumps" usual.pretty),
    ("parallel", flag "Extract header units in parallel" usual.parallel)]

def comparison : Data :=
  let usual : ComparisonSettings := {}
  record "Diff engine configuration" [
    ("function_matching", reference "How functions whose signature changed are matched"
      usual.matching.toData "FunctionMatching"),
    ("parallel", flag "Diff categories concurrently" usual.parallel),
    ("ignore_patterns", texts "Regular expressions on UIDs whose entries are dropped"
      usual.ignored)]

def filter : Data :=
  let usual : FilterSettings := {}
  record "Report filtering configuration" [
    ("min_impact", reference "Hide entries below this impact (the verdict still counts them)"
      usual.minImpact.toData "Impact"),
    ("max_items", nullable "Maximum entries shown per category and impact" "integer"
      [("format", .text "uint"), ("minimum", .float "0.0")])]

def output : Data :=
  let usual : OutputSettings := {}
  record "Output-related configuration" [
    ("format", reference "Output format" usual.format.toData "ReportFormat"),
    ("file", nullable "Output file path (None for stdout)" "string" []),
    ("no_color", flag "Disable colored output" usual.noColor),
    ("title", nullable "Report title" "string" [])]

def dumpFormats : Data :=
  choice "On-disk representation of a dump." [
    (DumpFormat.json.name, "JSON text, sorted by UID"),
    (DumpFormat.yaml.name, "YAML text, sorted by UID"),
    (DumpFormat.binary.name, "Compact checksummed binary")]

def matchings : Data :=
  choice "How functions whose UID changed are treated." [
    (Matching.byUid.word,
      "Match by full signature; a signature change is a removal plus an addition"),
    (Matching.byName.word, "Additionally pair leftovers that share a unique qualified name")]

def impacts : Data :=
  choice "Compatibility impact, ordered from least to most severe." [
    (Impact.informational.label, "No effect on binary compatibility"),
    (Impact.nonBreaking.label, "Additive extension of the ABI surface"),
    (Impact.breaking.label, "Binaries built against the old ABI may misbehave")]

def reportFormats : Data :=
  choice "Output format for reports" [
    (ReportFormat.summary.word, "Brief colored summary"),
    (ReportFormat.json.word, "Structured JSON output"),
    (ReportFormat.sarif.word, "SARIF 2.1.0 for CI/CD"),
    (ReportFormat.markdown.word, "Human-readable Markdown"),
    (ReportFormat.table.word, "Aligned table for terminal"),
    (ReportFormat.csv.word, "CSV for spreadsheet import")]

def description : String :=
  "Unified application configuration that can be loaded from CLI args or config files.\n\n" ++
  "This is the top-level configuration struct that aggregates all configuration options. " ++
  "It can be constructed from CLI arguments, config files, or both " ++
  "(with CLI overriding file settings)."

/-- The schema of all settings. -/
def data : Data :=
  let usual : Settings := {}
  .object [("$schema", .text "http://json-schema.org/draft-07/schema#"),
    ("title", .text "AppConfig"), ("description", .text description), ("type", .text "object"),
    ("properties", ordered (.object [
      ("diff", reference "Diff engine configuration (matching, ignore patterns)"
        usual.comparison.toData "EngineConfig"),
      ("output", reference "Output configuration (format, file, colors)"
        usual.output.toData "OutputConfig"),
      ("filtering", reference "Report filtering options" usual.filter.toData "FilterConfig"),
      ("behavior", reference "Behavior flags (exit code policy)"
        usual.behavior.toData "BehaviorConfig"),
      ("dump", reference "Dump writing configuration" usual.dump.toData "DumpConfig")])),
    ("definitions", ordered (.object [
      ("BehaviorConfig", behavior), ("DumpConfig", dump), ("DumpFormat", dumpFormats),
      ("EngineConfig", comparison), ("FilterConfig", filter), ("FunctionMatching", matchings),
      ("Impact", impacts), ("OutputConfig", output), ("ReportFormat", reportFormats)]))]

/-- The text of the schema. -/
def text : String := Json.pretty data

end HeaderAbi.Settings.Schema
