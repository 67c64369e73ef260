import HeaderAbi.Diff.EnumChanges
import HeaderAbi.Diff.FunctionChanges
import HeaderAbi.Diff.RecordChanges

/-!
# Comparing snapshots

`Snapshot.compare` lists the differences between an old and a new snapshot: for each category the
entities that came and went, then what changed in those that stayed.  Entries are ordered by
category and identifier, those on one entity in the order in which they were found.
-/

namespace HeaderAbi

namespace Snapshot

/-- The differences between the records of two snapshots. -/
def recordEntries (old new : Snapshot) : List Entry :=
  old.records.presence new.records ++
    (old.records.shared new.records).flatMap fun (o, n) =>
      (o.changes n).map fun c => Entity.entry n c.toChange

def enumEntries (old new : Snapshot) : List Entry :=
  old.enums.presence new.enums ++
    (old.enums.shared new.enums).flatMap fun (o, n) =>
      (o.changes n).map fun c => Entity.entry n c.toChange

/-- The entries for functions that came and went, without those that are paired by name. -/
def functionPresence (m : Matching) (old new : Snapshot) : List Entry :=
  let pairs := m.pairs old.functions new.functions
  (old.functions.presence new.functions).filter fun e =>
    match e.kind with
    | .removed => !pairs.any (·.1.uid == e.uid)
    | .added => !pairs.any (·.2.uid == e.uid)
    | .changed => true

def functionEntries (m : Matching) (old new : Snapshot) : List Entry :=
  functionPresence m old new ++
    ((old.functions.shared new.functions).flatMap fun (o, n) =>
      (o.changes n).map fun c => Entity.entry n c.toChange) ++
    (m.pairs old.functions new.functions).flatMap fun (o, n) =>
      (FunctionChange.signature o.uid n.uid :: o.changes n).map fun c => Entity.entry n c.toChange

def globalEntries (old new : Snapshot) : List Entry :=
  old.globals.presence new.globals ++
    (old.globals.shared new.globals).flatMap fun (o, n) =>
      (o.changes n).map fun c => Entity.entry n c.toChange

/-- The differences of one category, as they are found. -/
def categoryEntries (m : Matching) (old new : Snapshot) : Category → List Entry
  | .records => recordEntries old new
  | .enums => enumEntries old new
  | .functions => functionEntries m old new
  | .globals => globalEntries old new

/-- The differences between two snapshots, but for those on ignored identifiers. -/
def compare (m : Matching) (ignored : Uid → Bool) (old new : Snapshot) : Diff :=
  if old == new then {}
  else
    let found := Category.all.flatMap (categoryEntries m old new)
    ⟨(found.mergeSort Entry.le).filter fun e => !ignored e.uid⟩

end Snapshot

end HeaderAbi
