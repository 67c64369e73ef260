import HeaderAbi.Snapshot.Basic

/-!
# Merging

The union of the snapshots of several units, in the order given.  Equal declarations collapse, a
definition takes the place of a forward declaration, and any other difference is a conflict between
the unit that supplied what is kept and the unit that contradicts it.
-/

namespace HeaderAbi

/-- A merge in progress. -/
structure Merging where
  contents : Contents
  /-- The unit that supplied each entity that is kept, latest first. -/
  origins : List ((Category × Uid) × String)
deriving Inhabited

namespace Merging

def start : Merging := ⟨.empty, []⟩

/-- The unit that supplied an entity. -/
def origin (m : Merging) (category : Category) (u : Uid) : String :=
  ((m.origins.find? (·.1 == (category, u))).map (·.2)).getD "<unknown>"

/-- Keep an entity, in the place of the one that has its identifier. -/
def keep {α : Type} [Stored α] (m : Merging) (unit : String) (a : α) : Merging where
  contents := Stored.setTable m.contents ((Stored.table m.contents : Table α).put a)
  origins := ((Entity.category α, Entity.uid a), unit) :: m.origins

/-- Take in one entity of a unit. -/
def add {α : Type} [Stored α] (unit : String) (m : Merging) (a : α) : Except Fault Merging :=
  match (Stored.table m.contents : Table α).get? (Entity.uid a) with
  | none => .ok (m.keep unit a)
  | some kept =>
    if kept = a || Entity.isOpaque a then .ok m
    else if Entity.isOpaque kept then .ok (m.keep unit a)
    else
      let category := Entity.category α
      .error (.conflicting category (Entity.uid a).text (m.origin category (Entity.uid a)) unit)

/-- Take in all entities of a unit. -/
def addUnit (m : Merging) (part : String × Snapshot) : Except Fault Merging := do
  let (unit, s) := part
  let m ← s.records.entries.foldlM (add unit) m
  let m ← s.enums.entries.foldlM (add unit) m
  let m ← s.functions.entries.foldlM (add unit) m
  s.globals.entries.foldlM (add unit) m

end Merging

namespace Snapshot

/-- Merge the snapshots of named units, in order. -/
def merge (parts : List (String × Snapshot)) : Except Error Snapshot :=
  match parts.foldlM Merging.addUnit .start with
  | .error fault => .error (.ofFault fault)
  | .ok m =>
    match ofContents m.contents with
    | .ok s => .ok s
    | .error fault => .error ((Error.ofFault fault).within "validating merged representation")

end Snapshot

end HeaderAbi
