import HeaderAbi.Snapshot.Basic

/-!
# Drafts

A `Draft` collects entities one by one and becomes a snapshot at the end.  A second entity under an
identifier is refused at once; everything else is judged when the draft is finished.
-/

namespace HeaderAbi

/-- A snapshot in the making, possibly of one header unit. -/
structure Draft where
  unit : Option String := none
  contents : Contents := .empty
deriving Inhabited

namespace Draft

/-- Add an entity. -/
def add {α : Type} [Stored α] (d : Draft) (a : α) : Except Fault Draft :=
  match (Stored.table d.contents : Table α).insert? a with
  | some t => .ok { d with contents := Stored.setTable d.contents t }
  | none => .error (.duplicate (Entity.category α) (Entity.uid a).text d.unit)

/-- Add entities in order. -/
def addAll {α : Type} [Stored α] (d : Draft) (as : List α) : Except Fault Draft :=
  as.foldlM add d

/-- Finish the draft. -/
def build (d : Draft) : Except Fault Snapshot :=
  Snapshot.ofContents d.contents

end Draft

end HeaderAbi
