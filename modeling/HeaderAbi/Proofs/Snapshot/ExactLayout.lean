import HeaderAbi.Proofs.Snapshot.Validity

/-!
# Layouts in whole numbers

The check of a layout computes in 64 bits, and its sums and products stop at the limit.  Here the
same ends are computed without a limit, and `ExactLayout` is what the check is about: every part
lies within its record, and no two fields share a bit.

An end that stops at the limit is the lesser of the limit and the true end
(`Contents.toNat_fieldEnd_eq_min`).  So an end beyond the limit goes unnoticed only where the limit
itself is allowed.  **The layout of a complete record is exact unless the record has the greatest
size there is and a part of it ends beyond that** (`Snapshot.exactLayout_iff`); such records do pass
the check (`Snapshot.exists_not_exactLayout`).
-/

namespace HeaderAbi

namespace Contents

variable {c : Contents} {r : Record}

/-! ### Ends without a limit -/

/-- The bits that a use of a type takes: the size of its elements times the array bounds. -/
def exactTypeExtent (c : Contents) (t : TypeRef) : Nat :=
  if t.isIndirect then 0
  else (c.elementSize t.uid).toNat * (t.use.extents.map fun n => (n.getD 0).toNat).prod

/-- The bits that a field takes. -/
def exactFieldExtent (c : Contents) (f : Field) : Nat :=
  match f.bitWidth with
  | some w => w.toNat
  | none => c.exactTypeExtent f.type

/-- Where a field ends. -/
def exactFieldEnd (c : Contents) (f : Field) : Nat :=
  f.offsetBits.toNat + c.exactFieldExtent f

/-- Where a record ends that stands as a base. -/
def exactBaseEnd (b : Base) (target : Record) : Nat :=
  b.offsetBits.toNat + target.sizeBits.toNat

/-- A bit belongs to a field. -/
def Covers (c : Contents) (f : Field) (bit : Nat) : Prop :=
  f.offsetBits.toNat ≤ bit ∧ bit < c.exactFieldEnd f

/-- Every field, and every base that takes room in the record, ends at the bound or before it. -/
structure EndsBy (c : Contents) (r : Record) (bound : Nat) : Prop where
  fields : ∀ f ∈ r.fields, c.exactFieldEnd f ≤ bound
  bases : ∀ b ∈ r.bases, b.isVirtual = false → ∀ t ∈ c.records.entries, t.uid = b.uid →
    t.isOpaque = false → t.isEmptyLayout = false → exactBaseEnd b t ≤ bound

/-- The layout of a complete record holds together. -/
structure ExactLayout (c : Contents) (r : Record) : Prop where
  ends : c.EndsBy r r.sizeBits.toNat
  /-- Except in a union, no bit belongs to two fields. -/
  apart : r.isUnion = false →
    r.fields.Pairwise fun f g => ∀ bit, ¬ (c.Covers f bit ∧ c.Covers g bit)

/-! ### Ends that stop at the limit -/

theorem toNat_fieldExtent_eq_min (c : Contents) (f : Field) :
    (c.fieldExtent f).toNat = min bitsLimit (c.exactFieldExtent f) := by
  cases h : f.bitWidth with
  | some w =>
    have hw : w.toNat ≤ bitsLimit := Nat.le_trans (Nat.le_of_lt w.toNat_lt) (by decide)
    simp only [fieldExtent, exactFieldExtent, h, UInt32.toNat_toUInt64, Nat.min_eq_right hw]
  | none =>
    simp only [fieldExtent, exactFieldExtent, h, toNat_typeExtent, exactTypeExtent]
    split <;> rfl

/-- **The end of a field that the check computes** is its true end, or the limit if that is less. -/
theorem toNat_fieldEnd_eq_min (c : Contents) (f : Field) :
    (c.fieldEnd f).toNat = min bitsLimit (c.exactFieldEnd f) := by
  rw [toNat_fieldEnd, toNat_fieldExtent_eq_min, exactFieldEnd]
  omega

theorem toNat_sizeBits_le (r : Record) : r.sizeBits.toNat ≤ bitsLimit := by
  have := r.sizeBits.toNat_lt
  rw [bitsLimit]
  omega

/-- In a record that passes the check every end, stopped at the limit, is within the record. -/
theorem SoundLayout.min_le (h : c.SoundLayout r) :
    (∀ f ∈ r.fields, min bitsLimit (c.exactFieldEnd f) ≤ r.sizeBits.toNat) ∧
      ∀ b ∈ r.bases, b.isVirtual = false → ∀ t ∈ c.records.entries, t.uid = b.uid →
        t.isOpaque = false → t.isEmptyLayout = false →
          min bitsLimit (exactBaseEnd b t) ≤ r.sizeBits.toNat := by
  constructor
  · intro f hf
    rw [← toNat_fieldEnd_eq_min]
    exact UInt64.le_iff_toNat_le.1 (h.ends f hf)
  · intro b hb hv t ht hu ho he
    have := UInt64.le_iff_toNat_le.1 (h.bases b hb hv t ht hu ho he)
    rwa [toNat_addBits] at this

/-- Below the greatest size no end can have stopped at the limit. -/
theorem SoundLayout.endsBy_of_lt (h : c.SoundLayout r) (hsize : r.sizeBits.toNat < bitsLimit) :
    c.EndsBy r bitsLimit := by
  obtain ⟨hfields, hbases⟩ := h.min_le
  constructor
  case fields =>
    intro f hf
    have := hfields f hf
    omega
  case bases =>
    intro b hb hv t ht hu ho he
    have := hbases b hb hv t ht hu ho he
    omega

/-- **Where no end is beyond the limit the check is exact.** -/
theorem SoundLayout.exact (h : c.SoundLayout r) (hlimit : c.EndsBy r bitsLimit) :
    c.ExactLayout r := by
  obtain ⟨hfields, hbases⟩ := h.min_le
  constructor
  case ends =>
    constructor
    case fields =>
      intro f hf
      have hmin := hfields f hf
      rwa [Nat.min_eq_right (hlimit.fields f hf)] at hmin
    case bases =>
      intro b hb hv t ht hu ho he
      have hmin := hbases b hb hv t ht hu ho he
      rwa [Nat.min_eq_right (hlimit.bases b hb hv t ht hu ho he)] at hmin
  case apart =>
    intro hu
    rw [List.pairwise_iff_getElem]
    rintro i j hi hj hij bit ⟨⟨-, hlt⟩, ⟨hle, -⟩⟩
    -- the earlier field ends, in whole numbers, where the later one starts or before
    have hend := UInt64.le_iff_toNat_le.1 (h.apart hu i j hij hj).2
    rw [toNat_fieldEnd_eq_min,
      Nat.min_eq_right (hlimit.fields _ (List.getElem_mem hi))] at hend
    omega

end Contents

namespace Snapshot

open Contents

/-- **The layout of a complete record is exact** unless the record has the greatest size there is
and a field or base of it ends beyond that. -/
theorem exactLayout_iff (s : Snapshot) {r : Record} (hr : r ∈ s.records.entries)
    (ho : r.isOpaque = false) : s.contents.ExactLayout r ↔
      (r.sizeBits.toNat = bitsLimit → s.contents.EndsBy r bitsLimit) := by
  have hsound : s.contents.SoundLayout r := s.valid.layouts r hr ho
  constructor
  · intro h hsize
    rw [← hsize]
    exact h.ends
  · intro h
    rcases Nat.lt_or_eq_of_le (toNat_sizeBits_le r) with hlt | heq
    · exact hsound.exact (hsound.endsBy_of_lt hlt)
    · exact hsound.exact (h heq)

/-- A record of the greatest size, filled to the last bit. -/
def filled : Record where
  uid := ⟨"Filled"⟩
  name := "Filled"
  sizeBits := 0xFFFFFFFFFFFFFFFF
  alignBits := 8
  fields := [⟨"bytes", (TypeRef.ofName "char").array (some 0x1FFFFFFFFFFFFFFF), 0, none, .everyone⟩,
    ⟨"rest", .ofName "char", 0xFFFFFFFFFFFFFFF8, some 7, .everyone⟩]

/-- A record of the greatest size with two fields that start at its last bit. -/
def overfull : Record where
  uid := ⟨"Overfull"⟩
  name := "Overfull"
  sizeBits := 0xFFFFFFFFFFFFFFFF
  alignBits := 8
  fields := [⟨"a", .ofName "char", 0xFFFFFFFFFFFFFFFF, none, .everyone⟩,
    ⟨"b", .ofName "char", 0xFFFFFFFFFFFFFFFF, none, .everyone⟩]

/-- A snapshot with both records. -/
def greatest : Snapshot where
  contents := { Contents.empty with records := ⟨[filled, overfull], by decide⟩ }
  sound := by decide

theorem exactLayout_filled : filled ∈ greatest.records.entries ∧ filled.isOpaque = false ∧
    greatest.contents.ExactLayout filled := by
  have hmem : filled ∈ greatest.records.entries := by decide
  refine ⟨hmem, rfl, (exactLayout_iff greatest hmem rfl).2 fun _ => ⟨?_, ?_⟩⟩
  · decide
  · intro b hb
    exact absurd hb List.not_mem_nil

/-- A snapshot may hold a record two fields of which share bits and end beyond the record. -/
theorem exists_not_exactLayout : ∃ s : Snapshot, ∃ r ∈ s.records.entries,
    r.isOpaque = false ∧ r.isUnion = false ∧
      (∀ f ∈ r.fields, r.sizeBits.toNat < s.contents.exactFieldEnd f) ∧
      (¬ r.fields.Pairwise fun f g => ∀ bit,
        ¬ (s.contents.Covers f bit ∧ s.contents.Covers g bit)) ∧
      ¬ s.contents.ExactLayout r := by
  have hbeyond : ∀ f ∈ overfull.fields,
      overfull.sizeBits.toNat < greatest.contents.exactFieldEnd f := by decide
  have hshared : ¬ overfull.fields.Pairwise fun f g => ∀ bit,
      ¬ (greatest.contents.Covers f bit ∧ greatest.contents.Covers g bit) := by
    intro h
    refine List.rel_of_pairwise_cons h List.mem_cons_self 0xFFFFFFFFFFFFFFFF ⟨⟨?_, ?_⟩, ⟨?_, ?_⟩⟩
    all_goals decide
  exact ⟨greatest, overfull, by decide, rfl, rfl, hbeyond, hshared, fun h => hshared (h.apart rfl)⟩

end Snapshot

end HeaderAbi
