import HeaderAbi.Category
import HeaderAbi.Diff.Impact
import HeaderAbi.TypeRef.Form

/-!
# Entries of a diff

An `Entry` says what happened to one entity or to one member of it.  A `Diff` is a list of entries
in report order; its `Summary` counts them.
-/

namespace HeaderAbi

/-- A change without the entity that it concerns. -/
structure Change where
  kind : ChangeKind := .changed
  impact : Impact
  /-- The member concerned; none when the change is to the entity as a whole. -/
  part : Option String := none
  detail : String
deriving DecidableEq, Inhabited

/-- One difference between two snapshots. -/
structure Entry where
  uid : Uid
  category : Category
  change : Change
deriving DecidableEq, Inhabited

namespace Entry

def kind (e : Entry) : ChangeKind := e.change.kind

def impact (e : Entry) : Impact := e.change.impact

def isBreaking (e : Entry) : Bool := e.impact = .breaking

/-- The change is to the entity as a whole. -/
def isEntityLevel (e : Entry) : Bool := e.change.part.isNone

/-- The identifier, with the member after it if the change is to one. -/
def location (e : Entry) : String :=
  match e.change.part with
  | some part => e.uid.text ++ "::" ++ part
  | none => e.uid.text

/-- The order of reports: by category, then by identifier. -/
def le (a b : Entry) : Bool :=
  a.category.rank < b.category.rank || (a.category.rank == b.category.rank && a.uid.le b.uid)

def toData (e : Entry) : Data :=
  .object ([("uid", e.uid.toData), ("category", .text e.category.key),
    ("kind", .text e.kind.word), ("impact", e.impact.toData)] ++
    (e.change.part.map fun m => ("member", Data.text m)).toList ++
    [("detail", .text e.change.detail)])

def ofData? (d : Data) : Option Entry := do
  let fs ← d.fieldsOf? ["uid", "category", "kind", "impact", "member", "detail"]
  return {
    uid := ← Data.required fs "uid" Uid.ofData?
    category := ← Data.required fs "category" (Data.asName? (Category.all.map fun c => (c.key, c)))
    change := {
      kind := ← Data.required fs "kind" ChangeKind.ofData?
      impact := ← Data.required fs "impact" Impact.ofData?
      part := ← Data.optional fs "member" Data.asText?
      detail := ← Data.required fs "detail" Data.asText? } }

end Entry

/-- How many entries of each impact and kind there are. -/
structure Summary where
  total : Nat := 0
  breaking : Nat := 0
  nonBreaking : Nat := 0
  informational : Nat := 0
  added : Nat := 0
  removed : Nat := 0
  changed : Nat := 0
deriving DecidableEq, Inhabited

namespace Summary

def addImpact (s : Summary) : Impact → Summary
  | .breaking => { s with breaking := s.breaking + 1 }
  | .nonBreaking => { s with nonBreaking := s.nonBreaking + 1 }
  | .informational => { s with informational := s.informational + 1 }

def addKind (s : Summary) : ChangeKind → Summary
  | .added => { s with added := s.added + 1 }
  | .removed => { s with removed := s.removed + 1 }
  | .changed => { s with changed := s.changed + 1 }

/-- Counts one more entry by impact and by kind. -/
def add (s : Summary) (e : Entry) : Summary := (s.addImpact e.impact).addKind e.kind

def ofEntries (es : List Entry) : Summary := es.foldl add { total := es.length }

def count (s : Summary) : Impact → Nat
  | .breaking => s.breaking
  | .nonBreaking => s.nonBreaking
  | .informational => s.informational

def toData (s : Summary) : Data :=
  .object [("total", .int s.total), ("breaking", .int s.breaking),
    ("non_breaking", .int s.nonBreaking), ("informational", .int s.informational),
    ("added", .int s.added), ("removed", .int s.removed), ("changed", .int s.changed)]

end Summary

/-- The differences between two snapshots. -/
structure Diff where
  entries : List Entry := []
deriving DecidableEq, Inhabited

namespace Diff

def summary (d : Diff) : Summary := .ofEntries d.entries

def isEmpty (d : Diff) : Bool := d.entries.isEmpty

def hasBreaking (d : Diff) : Bool := 0 < d.summary.breaking

/-- The interface has grown. -/
def hasExtensions (d : Diff) : Bool := 0 < d.summary.nonBreaking

def breaking (d : Diff) : List Entry := d.entries.filter (·.isBreaking)

def inCategory (d : Diff) (c : Category) : List Entry := d.entries.filter (·.category = c)

def forUid (d : Diff) (u : Uid) : List Entry := d.entries.filter (·.uid = u)

/-- The entries at least as grave as an impact. -/
def filtered (d : Diff) (least : Impact) : Diff := ⟨d.entries.filter (·.impact.reaches least)⟩

end Diff

end HeaderAbi
