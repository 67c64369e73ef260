import HeaderAbi.Diff.Entry
import HeaderAbi.Snapshot.Basic

/-!
# Presence

Which entities two tables share and which only one of them has.  An entity that is gone breaks
binaries when other binaries could see it; an entity that is new never does.
-/

namespace HeaderAbi

/-- `old → new`. -/
def arrow (old new : String) : String := old ++ " → " ++ new

variable {α : Type} [Entity α]

namespace Entity

def entry (a : α) (change : Change) : Entry := ⟨Entity.uid a, Entity.category α, change⟩

/-- The entry for an entity that is gone. -/
def removal (a : α) : Entry :=
  let noun := (Entity.category α).noun
  if Entity.isVisible a then
    Entity.entry a ⟨.removed, .breaking, none, s!"{noun} '{Entity.name a}' removed"⟩
  else
    Entity.entry a
      ⟨.removed, .informational, none, s!"{noun} '{Entity.name a}' with internal linkage removed"⟩

/-- The entry for an entity that is new. -/
def addition (a : α) : Entry :=
  Entity.entry a
    ⟨.added, .nonBreaking, none, s!"{(Entity.category α).noun} '{Entity.name a}' added"⟩

end Entity

namespace Table

/-- The entities of a table that another one lacks. -/
def without (t other : Table α) : List α :=
  t.entries.filter fun a => !other.contains (Entity.uid a)

/-- The entries for entities that only one of two tables has, in the order of identifiers. -/
def presence (old new : Table α) : List Entry :=
  ((old.without new).map Entity.removal ++ (new.without old).map Entity.addition).mergeSort
    fun a b => a.uid.le b.uid

/-- The entities of both tables, paired by identifier and in its order. -/
def shared (old new : Table α) : List (α × α) :=
  old.sorted.filterMap fun a => (new.get? (Entity.uid a)).map (a, ·)

end Table

end HeaderAbi
