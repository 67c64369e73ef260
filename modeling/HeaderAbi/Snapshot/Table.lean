import HeaderAbi.Entity.Basic

/-!
# Tables of entities

A `Table` holds entities of one category in the order in which they were added, no two under one
identifier.  `sorted` is the order of dumps and reports.
-/

namespace HeaderAbi

/-- Entities of one category, none sharing an identifier. -/
structure Table (α : Type) [Entity α] where
  entries : List α
  nodup : (entries.map Entity.uid).Nodup

namespace Table

variable {α : Type} [Entity α]

def empty : Table α := ⟨[], List.nodup_nil⟩

instance : Inhabited (Table α) := ⟨empty⟩

/-- The identifiers, in the order of the entries. -/
def uids (t : Table α) : List Uid := t.entries.map Entity.uid

/-- The entity of that identifier. -/
def get? (t : Table α) (u : Uid) : Option α :=
  t.entries.find? (Entity.uid · == u)

def contains (t : Table α) (u : Uid) : Bool :=
  t.entries.any (Entity.uid · == u)

def size (t : Table α) : Nat := t.entries.length

theorem contains_iff {t : Table α} {u : Uid} :
    t.contains u = true ↔ u ∈ t.entries.map Entity.uid := by
  simp [contains, List.mem_map]

/-- Add an entity whose identifier is not there yet. -/
def insert (t : Table α) (a : α) (fresh : Entity.uid a ∉ t.entries.map Entity.uid) : Table α where
  entries := t.entries ++ [a]
  nodup := by
    rw [List.map_append, List.map_singleton]
    refine List.nodup_append.2 ⟨t.nodup, by simp, ?_⟩
    intro u hu v hv
    rw [List.mem_singleton.1 hv]
    exact fun h => fresh (h ▸ hu)

/-- Add an entity; `none` if its identifier is taken. -/
def insert? (t : Table α) (a : α) : Option (Table α) :=
  if h : t.contains (Entity.uid a) then none
  else some (t.insert a (fun m => h (contains_iff.2 m)))

/-- The entries with `a` in the place of the one that has its identifier. -/
def overwrite (entries : List α) (a : α) : List α :=
  entries.map fun b => if Entity.uid b = Entity.uid a then a else b

theorem map_uid_overwrite (entries : List α) (a : α) :
    (overwrite entries a).map Entity.uid = entries.map Entity.uid := by
  simp only [overwrite, List.map_map]
  refine List.map_congr_left fun b _ => ?_
  simp only [Function.comp_apply]
  split
  · exact Eq.symm ‹_›
  · rfl

/-- Add an entity, in the place of the one that has its identifier if there is one. -/
def put (t : Table α) (a : α) : Table α :=
  if h : t.contains (Entity.uid a) then
    ⟨overwrite t.entries a, by rw [map_uid_overwrite]; exact t.nodup⟩
  else t.insert a (fun m => h (contains_iff.2 m))

/-- The entities in the order of their identifiers. -/
def sorted (t : Table α) : List α :=
  t.entries.mergeSort fun a b => (Entity.uid a).le (Entity.uid b)

/-- The identifiers in order. -/
def sortedUids (t : Table α) : List Uid :=
  t.sorted.map Entity.uid

end Table

end HeaderAbi
