import HeaderAbi.Diff.Entry

/-!
# Compatibility reports

A `Report` is a diff as readers see it: a verdict, the counts, and the entries grouped by category
and impact.  Display options shape the groups alone; verdict and counts always speak of the whole
diff.
-/

namespace HeaderAbi

/-- The outcome of a comparison. -/
inductive Verdict where
  | compatible
  | incompatible
deriving DecidableEq, Inhabited

namespace Verdict

/-- Incompatible means that some entry breaks binaries. -/
def ofDiff (d : Diff) : Verdict := if d.hasBreaking then .incompatible else .compatible

def isCompatible : Verdict → Bool
  | .compatible => true
  | .incompatible => false

/-- The word in reports for readers. -/
def title : Verdict → String
  | .compatible => "Compatible"
  | .incompatible => "Incompatible"

/-- The key in structured output. -/
def label : Verdict → String
  | .compatible => "compatible"
  | .incompatible => "incompatible"

end Verdict

/-- What a report shows, and under which title. -/
structure ReportOptions where
  /-- Entries below this impact are left out. -/
  minImpact : Impact := .informational
  /-- At most so many entries of a group are shown. -/
  maxItems : Option Nat := none
  title : Option String := none
  oldPath : Option String := none
  newPath : Option String := none
  /-- The time of the report. -/
  generatedAt : String := ""
deriving DecidableEq, Inhabited

namespace ReportOptions

/-- The title, or the usual one. -/
def heading (o : ReportOptions) : String := o.title.getD "ABI Compatibility Report"

end ReportOptions

/-- The entries of one impact within a category. -/
structure ImpactGroup where
  impact : Impact
  entries : List Entry
  /-- The number of entries that are not shown. -/
  omitted : Nat := 0
deriving DecidableEq, Inhabited

/-- The entries of a category, gravest first. -/
structure CategoryGroup where
  category : Category
  impacts : List ImpactGroup
deriving DecidableEq, Inhabited

namespace ImpactGroup

/-- The group of some entries, cut after the greatest number to be shown; none for no entries. -/
def of? (maxItems : Option Nat) (impact : Impact) (entries : List Entry) : Option ImpactGroup :=
  if entries.isEmpty then none
  else match maxItems with
    | none => some ⟨impact, entries, 0⟩
    | some most => some ⟨impact, entries.take most, entries.length - most⟩

def toData (g : ImpactGroup) : Data :=
  .object [("impact", g.impact.toData), ("entries", .ofList Entry.toData g.entries),
    ("omitted", .int g.omitted)]

end ImpactGroup

namespace CategoryGroup

/-- The groups of a category that options let through; none if there are none. -/
def of? (o : ReportOptions) (d : Diff) (c : Category) : Option CategoryGroup :=
  let impacts := (Impact.all.filter (·.reaches o.minImpact)).filterMap fun i =>
    ImpactGroup.of? o.maxItems i ((d.inCategory c).filter (·.impact = i))
  if impacts.isEmpty then none else some ⟨c, impacts⟩

/-- The number of entries that are shown. -/
def shown (g : CategoryGroup) : Nat :=
  g.impacts.foldl (fun n i => n + i.entries.length) 0

def toData (g : CategoryGroup) : Data :=
  .object [("category", .text g.category.key), ("impacts", .ofList ImpactGroup.toData g.impacts)]

end CategoryGroup

/-- A diff as readers see it. -/
structure Report where
  verdict : Verdict
  summary : Summary
  groups : List CategoryGroup
deriving DecidableEq, Inhabited

namespace Report

def ofDiff (o : ReportOptions) (d : Diff) : Report where
  verdict := .ofDiff d
  summary := d.summary
  groups := Category.all.filterMap (CategoryGroup.of? o d)

/-- The entries that are shown, in the order of the groups. -/
def entries (r : Report) : List Entry :=
  r.groups.flatMap fun g => g.impacts.flatMap (·.entries)

/-- The number of entries that the limit on groups keeps from being shown. -/
def omitted (r : Report) : Nat :=
  r.groups.foldl (fun n g => g.impacts.foldl (fun n i => n + i.omitted) n) 0

def isCompatible (r : Report) : Bool := r.verdict.isCompatible

def toData (r : Report) : Data :=
  .object [("verdict", .text r.verdict.label), ("summary", r.summary.toData),
    ("groups", .ofList CategoryGroup.toData r.groups)]

end Report

end HeaderAbi
