import HeaderAbi.Settings.Basic

/-!
# The form of settings in a file

Settings are a record of sections.  Sections and fields may be missing and then have their usual
values; unknown ones are passed over.
-/

namespace HeaderAbi

namespace DumpFormat

def toData (f : DumpFormat) : Data := .text f.name

def ofData? (d : Data) : Option DumpFormat := d.asName? (all.map fun f => (f.name, f))

end DumpFormat

namespace ComparisonSettings

def toData (s : ComparisonSettings) : Data :=
  .object [("function_matching", s.matching.toData), ("parallel", .bool s.parallel),
    ("ignore_patterns", .ofList .text s.ignored)]

def ofData? (d : Data) : Option ComparisonSettings := do
  let fs ← d.fieldsOf? ["function_matching", "parallel", "ignore_patterns"]
  return {
    matching := ← Data.defaulted fs "function_matching" Matching.ofData? .byUid
    parallel := ← Data.defaulted fs "parallel" Data.asBool? true
    ignored := ← Data.listed fs "ignore_patterns" Data.asText? }

end ComparisonSettings

namespace OutputSettings

def toData (s : OutputSettings) : Data :=
  .object ([("format", s.format.toData)] ++ (s.file.map fun f => ("file", Data.text f)).toList ++
    [("no_color", .bool s.noColor)] ++ (s.title.map fun t => ("title", Data.text t)).toList)

def ofData? (d : Data) : Option OutputSettings := do
  let fs ← d.fieldsOf? ["format", "file", "no_color", "title"]
  return {
    format := ← Data.defaulted fs "format" ReportFormat.ofData? .summary
    file := ← Data.optional fs "file" Data.asText?
    noColor := ← Data.flag fs "no_color"
    title := ← Data.optional fs "title" Data.asText? }

end OutputSettings

namespace FilterSettings

def toData (s : FilterSettings) : Data :=
  .object ([("min_impact", s.minImpact.toData)] ++
    (s.maxItems.map fun n => ("max_items", Data.int n)).toList)

def ofData? (d : Data) : Option FilterSettings := do
  let fs ← d.fieldsOf? ["min_impact", "max_items"]
  return {
    minImpact := ← Data.defaulted fs "min_impact" Impact.ofData? .informational
    maxItems := (← Data.optional fs "max_items" Data.asUInt64?).map (·.toNat) }

end FilterSettings

namespace BehaviorSettings

def toData (s : BehaviorSettings) : Data :=
  .object [("fail_on_extension", .bool s.failOnExtension), ("advice_only", .bool s.adviceOnly),
    ("allow_missing_reference", .bool s.allowMissingReference), ("quiet", .bool s.quiet)]

def ofData? (d : Data) : Option BehaviorSettings := do
  let fs ← d.fieldsOf? ["fail_on_extension", "advice_only", "allow_missing_reference", "quiet"]
  return {
    failOnExtension := ← Data.flag fs "fail_on_extension"
    adviceOnly := ← Data.flag fs "advice_only"
    allowMissingReference := ← Data.flag fs "allow_missing_reference"
    quiet := ← Data.flag fs "quiet" }

end BehaviorSettings

namespace DumpSettings

def toData (s : DumpSettings) : Data :=
  .object [("format", s.format.toData), ("pretty", .bool s.pretty), ("parallel", .bool s.parallel)]

def ofData? (d : Data) : Option DumpSettings := do
  let fs ← d.fieldsOf? ["format", "pretty", "parallel"]
  return {
    format := ← Data.defaulted fs "format" DumpFormat.ofData? .json
    pretty := ← Data.defaulted fs "pretty" Data.asBool? true
    parallel := ← Data.defaulted fs "parallel" Data.asBool? true }

end DumpSettings

namespace Settings

def toData (s : Settings) : Data :=
  .object [("diff", s.comparison.toData), ("output", s.output.toData),
    ("filtering", s.filter.toData), ("behavior", s.behavior.toData), ("dump", s.dump.toData)]

def ofData? (d : Data) : Option Settings := do
  let fs ← d.fieldsOf? ["diff", "output", "filtering", "behavior", "dump"]
  return {
    comparison := ← Data.defaulted fs "diff" ComparisonSettings.ofData? {}
    output := ← Data.defaulted fs "output" OutputSettings.ofData? {}
    filter := ← Data.defaulted fs "filtering" FilterSettings.ofData? {}
    behavior := ← Data.defaulted fs "behavior" BehaviorSettings.ofData? {}
    dump := ← Data.defaulted fs "dump" DumpSettings.ofData? {} }

end Settings

end HeaderAbi
