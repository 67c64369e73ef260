import HeaderAbi.Builtin
import HeaderAbi.Snapshot.Table

/-!
# The contents of a snapshot

Four tables, one for each category, before anything is known about how they fit together.
-/

namespace HeaderAbi

/-- Entities of all four categories. -/
structure Contents where
  records : Table Record
  enums : Table EnumType
  functions : Table Function
  globals : Table GlobalVar
deriving Inhabited

/-- A kind of entity with the table that holds it. -/
class Stored (α : Type) extends Entity α where
  decideEq : DecidableEq α
  table : Contents → Table α
  setTable : Contents → Table α → Contents

instance {α : Type} [Stored α] : DecidableEq α := Stored.decideEq

instance : Stored Record where
  decideEq := inferInstance
  table := Contents.records
  setTable c t := { c with records := t }

instance : Stored EnumType where
  decideEq := inferInstance
  table := Contents.enums
  setTable c t := { c with enums := t }

instance : Stored Function where
  decideEq := inferInstance
  table := Contents.functions
  setTable c t := { c with functions := t }

instance : Stored GlobalVar where
  decideEq := inferInstance
  table := Contents.globals
  setTable c t := { c with globals := t }

namespace Contents

def empty : Contents := ⟨.empty, .empty, .empty, .empty⟩

/-- True for the identifiers a type may have: a record, an enumeration, a function, which stands for
its signature, or a fundamental type. -/
def resolves (c : Contents) (u : Uid) : Bool :=
  c.records.contains u || c.enums.contains u || c.functions.contains u || Builtin.isBuiltin u.text

/-- The number of entities of a category. -/
def count (c : Contents) : Category → Nat
  | .records => c.records.size
  | .enums => c.enums.size
  | .functions => c.functions.size
  | .globals => c.globals.size

/-- The number of entities. -/
def size (c : Contents) : Nat :=
  Category.all.foldl (fun n k => n + c.count k) 0

/-- The identifiers of a category, in order. -/
def sortedUids (c : Contents) : Category → List Uid
  | .records => c.records.sortedUids
  | .enums => c.enums.sortedUids
  | .functions => c.functions.sortedUids
  | .globals => c.globals.sortedUids

end Contents

end HeaderAbi
