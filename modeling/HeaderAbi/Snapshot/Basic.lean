import HeaderAbi.Snapshot.Layout

/-!
# Snapshots

`Contents.faults` lists what is wrong with contents: uses of types that resolve to nothing, bases
and parents that are no records, and layouts that do not hold together.  A `Snapshot` is contents
without faults.  The first fault in the list is the one that is reported.
-/

namespace HeaderAbi

namespace Contents

/-- The uses of types in a table that resolve to nothing.  A function type stands for itself, but
the types in its signature must resolve. -/
def referenceFaults {α : Type} [Stored α] (c : Contents) : List Fault :=
  (Stored.table c : Table α).entries.flatMap fun a =>
    ((Entity.references a).flatMap TypeRef.walk).filterMap fun t =>
      if t.isFunction || c.resolves t.uid then none
      else some (.unresolved (Entity.category α) (Entity.uid a).text t.uid.text)

/-- The bases of complete records that are no records. -/
def baseReferenceFaults (c : Contents) : List Fault :=
  c.records.entries.flatMap fun r =>
    if r.isOpaque then []
    else r.bases.filterMap fun b =>
      if c.records.contains b.uid then none
      else some (.unresolved .records r.uid.text b.uid.text)

/-- The parents of functions that are no records. -/
def parentFaults (c : Contents) : List Fault :=
  c.functions.entries.flatMap fun f =>
    match f.parent with
    | none => []
    | some p =>
      if c.records.contains p then [] else [.unresolved .functions f.uid.text p.text]

/-- The layout faults of every complete record. -/
def allLayoutFaults (c : Contents) : List Fault :=
  c.records.entries.flatMap fun r =>
    if r.isOpaque then []
    else (c.layoutFaults r).map fun l => .layout r.uid.text l.message

/-- Everything that keeps contents from being a snapshot. -/
def faults (c : Contents) : List Fault :=
  c.referenceFaults (α := Record) ++ c.referenceFaults (α := EnumType) ++
    c.referenceFaults (α := Function) ++ c.referenceFaults (α := GlobalVar) ++
    c.baseReferenceFaults ++ c.parentFaults ++ c.allLayoutFaults

end Contents

/-- The version of the model, which dumps carry. -/
def formatVersion : UInt32 := 1

/-- Contents without faults. -/
structure Snapshot where
  contents : Contents
  sound : contents.faults = []

namespace Snapshot

/-- The snapshot without entities, which stands for a library that does not exist yet. -/
def empty : Snapshot := ⟨.empty, rfl⟩

instance : Inhabited Snapshot := ⟨empty⟩

/-- Make contents a snapshot, or say the first thing that is wrong with them. -/
def ofContents (c : Contents) : Except Fault Snapshot :=
  match h : c.faults with
  | [] => .ok ⟨c, h⟩
  | f :: _ => .error f

def records (s : Snapshot) : Table Record := s.contents.records

def enums (s : Snapshot) : Table EnumType := s.contents.enums

def functions (s : Snapshot) : Table Function := s.contents.functions

def globals (s : Snapshot) : Table GlobalVar := s.contents.globals

/-- The table of a kind of entity. -/
def table {α : Type} [Stored α] (s : Snapshot) : Table α := Stored.table s.contents

/-- Two snapshots hold the same entities, whatever the order in which they were added. -/
def same (a b : Snapshot) : Bool :=
  a.records.sorted == b.records.sorted && a.enums.sorted == b.enums.sorted &&
    a.functions.sorted == b.functions.sorted && a.globals.sorted == b.globals.sorted

instance : BEq Snapshot := ⟨same⟩

def size (s : Snapshot) : Nat := s.contents.size

def isEmpty (s : Snapshot) : Bool := s.size == 0

end Snapshot

/-- How many entities of each sort a snapshot holds. -/
structure Statistics where
  records : Nat
  opaqueRecords : Nat
  templateInstantiations : Nat
  enums : Nat
  enumerators : Nat
  functions : Nat
  virtualFunctions : Nat
  globals : Nat
deriving DecidableEq, Inhabited

namespace Snapshot

def statistics (s : Snapshot) : Statistics where
  records := s.records.size
  opaqueRecords := s.records.entries.countP (·.isOpaque)
  templateInstantiations := s.records.entries.countP (·.template.isInstantiation)
  enums := s.enums.size
  enumerators := s.enums.entries.foldl (fun n e => n + e.enumerators.length) 0
  functions := s.functions.size
  virtualFunctions := s.functions.entries.countP (·.isVirtual)
  globals := s.globals.size

end Snapshot

namespace Statistics

def toData (s : Statistics) : Data :=
  .object [("records", .int s.records), ("opaque_records", .int s.opaqueRecords),
    ("template_instantiations", .int s.templateInstantiations), ("enums", .int s.enums),
    ("enumerators", .int s.enumerators), ("functions", .int s.functions),
    ("virtual_functions", .int s.virtualFunctions), ("global_vars", .int s.globals)]

end Statistics

end HeaderAbi
