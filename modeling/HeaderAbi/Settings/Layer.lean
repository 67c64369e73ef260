import HeaderAbi.Settings.Basic

/-!
# Layers of settings

Settings come from several places, one on top of the other.  `Settings.overlay` puts a layer on top
of another.  A layer does not say which of its fields were given: a field that has its usual value
lets the field below show through.
-/

namespace HeaderAbi

/-- A field of the upper layer, unless it has its usual value. -/
def shown {α : Type} [DecidableEq α] (usual below above : α) : α :=
  if above = usual then below else above

/-- A list with an item at its end, unless it holds the item already. -/
def addNew (items : List String) (item : String) : List String :=
  if items.contains item then items else items ++ [item]

namespace ComparisonSettings

/-- Patterns of both layers count, each once. -/
def overlay (below above : ComparisonSettings) : ComparisonSettings where
  matching := shown .byUid below.matching above.matching
  parallel := shown true below.parallel above.parallel
  ignored := above.ignored.foldl addNew below.ignored

end ComparisonSettings

namespace OutputSettings

def overlay (below above : OutputSettings) : OutputSettings where
  format := shown .summary below.format above.format
  file := above.file.or below.file
  noColor := shown false below.noColor above.noColor
  title := above.title.or below.title

end OutputSettings

namespace FilterSettings

def overlay (below above : FilterSettings) : FilterSettings where
  minImpact := shown .informational below.minImpact above.minImpact
  maxItems := above.maxItems.or below.maxItems

end FilterSettings

namespace BehaviorSettings

def overlay (below above : BehaviorSettings) : BehaviorSettings where
  failOnExtension := shown false below.failOnExtension above.failOnExtension
  adviceOnly := shown false below.adviceOnly above.adviceOnly
  allowMissingReference := shown false below.allowMissingReference above.allowMissingReference
  quiet := shown false below.quiet above.quiet

end BehaviorSettings

namespace DumpSettings

def overlay (below above : DumpSettings) : DumpSettings where
  format := shown .json below.format above.format
  pretty := shown true below.pretty above.pretty
  parallel := shown true below.parallel above.parallel

end DumpSettings

namespace Settings

/-- Settings with a layer on top. -/
def overlay (below above : Settings) : Settings where
  comparison := below.comparison.overlay above.comparison
  output := below.output.overlay above.output
  filter := below.filter.overlay above.filter
  behavior := below.behavior.overlay above.behavior
  dump := below.dump.overlay above.dump

end Settings

end HeaderAbi
