import HeaderAbi.Error
import HeaderAbi.Snapshot.Contents

/-!
# Layout of records

How many bits a use of a type takes, and the faults in the layout of a record: fields out of order,
fields that overlap, and fields or bases that reach beyond the end of the record.  Sums and products
stop at the greatest 64-bit number instead of wrapping around.
-/

namespace HeaderAbi

/-- The greatest 64-bit number, at which sums and products stop. -/
def bitsLimit : Nat := 0xFFFFFFFFFFFFFFFF

/-- The sum of two bit counts, stopping at the limit. -/
def addBits (a b : UInt64) : UInt64 :=
  UInt64.ofNat (min bitsLimit (a.toNat + b.toNat))

/-- The product of two bit counts, stopping at the limit. -/
def mulBits (a b : UInt64) : UInt64 :=
  UInt64.ofNat (min bitsLimit (a.toNat * b.toNat))

/-- A fault in the layout of a record. -/
inductive LayoutFault where
  | outOfOrder (field : String) (offset : UInt64) (previous : String) (previousOffset : UInt64)
  | overlap (field : String) (offset : UInt64) (previous : String) (previousEnd : UInt64)
  | fieldPastEnd (size : UInt64) (field : String) (fieldEnd : UInt64)
  | basePastEnd (size : UInt64) (base : Uid) (baseEnd : UInt64)
deriving DecidableEq, Inhabited

namespace LayoutFault

def message : LayoutFault → String
  | .outOfOrder field offset previous previousOffset =>
    s!"field '{field}' at offset {offset} precedes field '{previous}' at offset {previousOffset}"
  | .overlap field offset previous previousEnd =>
    s!"field '{field}' at offset {offset} overlaps field '{previous}' ending at {previousEnd}"
  | .fieldPastEnd size field fieldEnd =>
    s!"size {size} is smaller than the end of field '{field}' ({fieldEnd})"
  | .basePastEnd size base baseEnd =>
    s!"size {size} is smaller than the end of base '{base}' ({baseEnd})"

end LayoutFault

namespace Contents

/-- The size of one value of the named type; zero when it is not known. -/
def elementSize (c : Contents) (u : Uid) : UInt64 :=
  match c.records.get? u with
  | some r => if r.isOpaque then 0 else r.sizeBits
  | none =>
    match c.enums.get? u with
    | some e => Builtin.sizeOf e.underlying.uid.text
    | none => Builtin.sizeOf u.text

/-- The bits that a use of a type takes where it stands; zero for pointers and references, whose
size depends on the target. -/
def typeExtent (c : Contents) (t : TypeRef) : UInt64 :=
  if t.isIndirect then 0
  else t.use.extents.foldl (fun size n => mulBits size (n.getD 0)) (c.elementSize t.uid)

/-- The bits that a field takes. -/
def fieldExtent (c : Contents) (f : Field) : UInt64 :=
  match f.bitWidth with
  | some w => w.toUInt64
  | none => c.typeExtent f.type

/-- Where a field ends. -/
def fieldEnd (c : Contents) (f : Field) : UInt64 :=
  addBits f.offsetBits (c.fieldExtent f)

/-- The faults of a field that follows another one. -/
def faultsAfter (c : Contents) (previous f : Field) : List LayoutFault :=
  (if f.offsetBits < previous.offsetBits then
    [.outOfOrder f.label f.offsetBits previous.label previous.offsetBits] else []) ++
  (if f.offsetBits < c.fieldEnd previous then
    [.overlap f.label f.offsetBits previous.label (c.fieldEnd previous)] else [])

/-- The faults of a list of fields, `previous` being the one before it.  The members of a union
stand side by side, so only their ends matter. -/
def fieldFaults (c : Contents) (r : Record) (previous : Option Field) :
    List Field → List LayoutFault
  | [] => []
  | f :: fs =>
    (if r.isUnion then [] else
      match previous with
      | none => []
      | some p => c.faultsAfter p f) ++
    (if c.fieldEnd f > r.sizeBits then [.fieldPastEnd r.sizeBits f.label (c.fieldEnd f)] else []) ++
    c.fieldFaults r (some f) fs

/-- The faults of the bases.  Virtual bases lie where the most derived class puts them, and bases
without content take no room. -/
def baseFaults (c : Contents) (r : Record) : List LayoutFault :=
  r.bases.flatMap fun b =>
    if b.isVirtual then []
    else match c.records.get? b.uid with
      | none => []
      | some target =>
        if target.isOpaque || target.isEmptyLayout then []
        else
          let baseEnd := addBits b.offsetBits target.sizeBits
          if baseEnd > r.sizeBits then [.basePastEnd r.sizeBits b.uid baseEnd] else []

/-- The faults in the layout of a complete record. -/
def layoutFaults (c : Contents) (r : Record) : List LayoutFault :=
  c.fieldFaults r none r.fields ++ c.baseFaults r

end Contents

end HeaderAbi
