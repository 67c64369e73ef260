import HeaderAbi.Data.Decode

/-!
# Kinds and impacts of changes

What happened to an entity or a member of one, and what it means for binaries that were built
against the old headers.
-/

namespace HeaderAbi

/-- What happened. -/
inductive ChangeKind where
  | added
  | removed
  | changed
deriving DecidableEq, Inhabited

namespace ChangeKind

/-- The kind of the same change seen from the other side. -/
def reversed : ChangeKind → ChangeKind
  | .added => .removed
  | .removed => .added
  | .changed => .changed

def word : ChangeKind → String
  | .added => "added"
  | .removed => "removed"
  | .changed => "changed"

def all : List ChangeKind := [.added, .removed, .changed]

def ofData? (d : Data) : Option ChangeKind := d.asName? (all.map fun k => (k.word, k))

end ChangeKind

/-- What a change means for binaries. -/
inductive Impact where
  /-- Worth knowing, without effect on binaries. -/
  | informational
  /-- The interface grows; old binaries keep working. -/
  | nonBreaking
  /-- Old binaries may stop working. -/
  | breaking
deriving DecidableEq, Inhabited

namespace Impact

/-- Every impact, gravest first, as reports list them. -/
def all : List Impact := [.breaking, .nonBreaking, .informational]

/-- The place of an impact in the order of gravity. -/
def rank : Impact → Nat
  | .informational => 0
  | .nonBreaking => 1
  | .breaking => 2

/-- The key in structured output. -/
def label : Impact → String
  | .informational => "informational"
  | .nonBreaking => "non_breaking"
  | .breaking => "breaking"

/-- The word in reports for readers. -/
def title : Impact → String
  | .informational => "Informational"
  | .nonBreaking => "NonBreaking"
  | .breaking => "Breaking"

/-- At least as grave as another impact. -/
def reaches (i least : Impact) : Bool := least.rank ≤ i.rank

def toData (i : Impact) : Data := .text i.label

def ofData? (d : Data) : Option Impact := d.asName? (all.map fun i => (i.label, i))

end Impact

end HeaderAbi
