import HeaderAbi.Proofs.Snapshot.Agreement
import Mathlib.Algebra.BigOperators.Group.List.Basic
import Mathlib.Data.List.Pairwise

/-!
# What makes contents a snapshot

`Contents.Valid` says in one place what a snapshot may rely on: every type in use is known, at any
depth of nested signatures; bases and parents are records; the layouts of complete records hold
together.  **Contents are valid exactly when the check finds no fault** (`faults_eq_nil_iff`), so
every snapshot is valid (`Snapshot.valid`).

The check compares each field with the one before it only.  That is enough: ends and offsets grow
along the fields, so no two of them overlap (`fieldFaults_eq_nil_iff`).

Validity does not depend on the order in which entities were added (`Agrees.valid`).
-/

namespace HeaderAbi

/-! ### Uses within uses -/

namespace TypeRef

/-- A use of a type is another one or lies in its signature, at any depth. -/
inductive Within (s : TypeRef) : TypeRef → Prop where
  | self : Within s s
  | result {u : TypeUse} {r : TypeRef} {ps : List TypeRef} {v : Bool} {c : CallingConvention} :
    Within s r → Within s (.function u r ps v c)
  | parameter {u : TypeUse} {r p : TypeRef} {ps : List TypeRef} {v : Bool}
    {c : CallingConvention} : p ∈ ps → Within s p → Within s (.function u r ps v c)

theorem mem_walkList {s : TypeRef} : ∀ {ts : List TypeRef},
    s ∈ walkList ts ↔ ∃ t ∈ ts, s ∈ walk t
  | [] => by simp [walkList]
  | t :: ts => by
    have ih : s ∈ walkList ts ↔ ∃ t ∈ ts, s ∈ walk t := mem_walkList
    simp [walkList, ih]

/-- **The walk through a use** meets what is within it. -/
theorem mem_walk {s : TypeRef} : ∀ {t : TypeRef}, s ∈ walk t ↔ Within s t
  | .named u => by
    rw [walk, List.mem_singleton]
    constructor
    · rintro rfl
      exact .self
    · rintro ⟨⟩
      rfl
  | .function u r ps v c => by
    have hr : s ∈ walk r ↔ Within s r := mem_walk
    have hp : ∀ p ∈ ps, s ∈ walk p ↔ Within s p := fun p _ => mem_walk
    rw [walk, List.mem_cons, List.mem_append, mem_walkList, hr]
    constructor
    · rintro (rfl | h | ⟨p, hm, h⟩)
      · exact .self
      · exact .result h
      · exact .parameter hm ((hp p hm).1 h)
    · rintro (_ | h | ⟨hm, h⟩)
      · exact .inl rfl
      · exact .inr (.inl h)
      · exact .inr (.inr ⟨_, hm, (hp _ hm).2 h⟩)

end TypeRef

/-! ### Sums and products that stop at the limit -/

theorem toNat_addBits (a b : UInt64) :
    (addBits a b).toNat = min bitsLimit (a.toNat + b.toNat) := by
  simp only [addBits, UInt64.toNat_ofNat', bitsLimit]
  omega

theorem toNat_mulBits (a b : UInt64) :
    (mulBits a b).toNat = min bitsLimit (a.toNat * b.toNat) := by
  simp only [mulBits, UInt64.toNat_ofNat', bitsLimit]
  omega

theorem min_min_mul (m a b : Nat) : min m (min m a * b) = min m (a * b) := by
  rcases Nat.le_total a m with h | h
  · rw [Nat.min_eq_right h]
  · rw [Nat.min_eq_left h]
    rcases Nat.eq_zero_or_pos b with rfl | hb
    · simp
    · have hm : m ≤ m * b := Nat.le_mul_of_pos_right m hb
      rw [Nat.min_eq_left hm, Nat.min_eq_left (Nat.le_trans hm (Nat.mul_le_mul_right b h))]

theorem toNat_foldl_mulBits (size : UInt64) (ns : List (Option UInt64)) :
    (ns.foldl (fun size n => mulBits size (n.getD 0)) size).toNat =
      min bitsLimit (size.toNat * (ns.map fun n => (n.getD 0).toNat).prod) := by
  induction ns generalizing size with
  | nil =>
    have := size.toNat_lt
    simp only [List.foldl_nil, List.map_nil, List.prod_nil, bitsLimit]
    omega
  | cons n ns ih =>
    rw [List.foldl_cons, ih, toNat_mulBits, List.map_cons, List.prod_cons, min_min_mul, mul_assoc]

namespace Contents

/-- **The extent of a type that is no pointer** is the size of its elements times the array bounds,
up to the limit. -/
theorem toNat_typeExtent (c : Contents) (t : TypeRef) :
    (c.typeExtent t).toNat = if t.isIndirect then 0 else
      min bitsLimit
        ((c.elementSize t.uid).toNat * (t.use.extents.map fun n => (n.getD 0).toNat).prod) := by
  rw [typeExtent]
  split
  · rfl
  · exact toNat_foldl_mulBits _ _

theorem toNat_fieldEnd (c : Contents) (f : Field) :
    (c.fieldEnd f).toNat = min bitsLimit (f.offsetBits.toNat + (c.fieldExtent f).toNat) :=
  toNat_addBits _ _

/-! ### Validity -/

/-- An identifier names a record, an enumeration, a function or a fundamental type. -/
def Knows (c : Contents) (u : Uid) : Prop :=
  (∃ r ∈ c.records.entries, r.uid = u) ∨ (∃ e ∈ c.enums.entries, e.uid = u) ∨
    (∃ f ∈ c.functions.entries, f.uid = u) ∨ Builtin.isBuiltin u.text = true

/-- Every use within a use is of a function type or of a known type. -/
def Resolved (c : Contents) (t : TypeRef) : Prop :=
  ∀ s, TypeRef.Within s t → s.isFunction = true ∨ c.Knows s.uid

/-- The layout of a complete record holds together. -/
structure SoundLayout (c : Contents) (r : Record) : Prop where
  /-- Every field ends within the record. -/
  ends : ∀ f ∈ r.fields, c.fieldEnd f ≤ r.sizeBits
  /-- Except in a union, no field starts before one that comes earlier, nor before its end. -/
  apart : r.isUnion = false → ∀ i j (hij : i < j) (hj : j < r.fields.length),
    r.fields[i].offsetBits ≤ r.fields[j].offsetBits ∧
      c.fieldEnd r.fields[i] ≤ r.fields[j].offsetBits
  /-- Every base with content that is not virtual ends within the record. -/
  bases : ∀ b ∈ r.bases, b.isVirtual = false → ∀ t ∈ c.records.entries, t.uid = b.uid →
    t.isOpaque = false → t.isEmptyLayout = false → addBits b.offsetBits t.sizeBits ≤ r.sizeBits

/-- What every snapshot may rely on. -/
structure Valid (c : Contents) : Prop where
  recordTypes : ∀ r ∈ c.records.entries, r.isOpaque = false → ∀ f ∈ r.fields, c.Resolved f.type
  enumTypes : ∀ e ∈ c.enums.entries, c.Resolved e.underlying
  functionTypes : ∀ f ∈ c.functions.entries, ∀ t ∈ f.types, c.Resolved t
  globalTypes : ∀ g ∈ c.globals.entries, c.Resolved g.type
  bases : ∀ r ∈ c.records.entries, r.isOpaque = false → ∀ b ∈ r.bases,
    ∃ t ∈ c.records.entries, t.uid = b.uid
  parents : ∀ f ∈ c.functions.entries, ∀ p, f.parent = some p → ∃ t ∈ c.records.entries, t.uid = p
  layouts : ∀ r ∈ c.records.entries, r.isOpaque = false → c.SoundLayout r

/-! ### References -/

theorem resolves_iff {c : Contents} {u : Uid} : c.resolves u = true ↔ c.Knows u := by
  simp only [resolves, Bool.or_eq_true, Table.contains_iff_exists, or_assoc]
  rfl

theorem referenceFaults_eq_nil_iff {α : Type} [Stored α] {c : Contents} :
    c.referenceFaults (α := α) = [] ↔
      ∀ a ∈ (Stored.table c : Table α).entries, ∀ t ∈ Entity.references a, c.Resolved t := by
  simp only [referenceFaults, List.flatMap_eq_nil_iff, List.filterMap_eq_nil_iff, List.mem_flatMap,
    TypeRef.mem_walk, ite_eq_left_iff, reduceCtorEq, imp_false, not_not, Bool.or_eq_true,
    resolves_iff, Resolved]
  constructor
  · intro h a ha t ht s hs
    exact h a ha s ⟨t, ht, hs⟩
  · rintro h a ha s ⟨t, ht, hs⟩
    exact h a ha t ht s hs

theorem baseReferenceFaults_eq_nil_iff {c : Contents} :
    c.baseReferenceFaults = [] ↔ ∀ r ∈ c.records.entries, r.isOpaque = false → ∀ b ∈ r.bases,
      ∃ t ∈ c.records.entries, t.uid = b.uid := by
  simp only [baseReferenceFaults, List.flatMap_eq_nil_iff, ite_eq_left_iff, Bool.not_eq_true,
    List.filterMap_eq_nil_iff, reduceCtorEq, imp_false, not_not, Table.contains_iff_exists]
  rfl

theorem parentFaults_eq_nil_iff {c : Contents} :
    c.parentFaults = [] ↔ ∀ f ∈ c.functions.entries, ∀ p, f.parent = some p →
      ∃ t ∈ c.records.entries, t.uid = p := by
  simp only [parentFaults, List.flatMap_eq_nil_iff]
  refine forall₂_congr fun f _ => ?_
  cases f.parent with
  | none => simp
  | some p => simp [Table.contains_iff_exists]; rfl

/-! ### Layouts -/

/-- One field lies behind another. -/
def Behind (c : Contents) (f g : Field) : Prop :=
  f.offsetBits ≤ g.offsetBits ∧ c.fieldEnd f ≤ g.offsetBits

instance (c : Contents) : IsTrans Field c.Behind :=
  ⟨fun _ _ _ hfg hgh => ⟨UInt64.le_trans hfg.1 hgh.1, UInt64.le_trans hfg.2 hgh.1⟩⟩

theorem faultsAfter_eq_nil_iff {c : Contents} {p f : Field} :
    c.faultsAfter p f = [] ↔ c.Behind p f := by
  simp [faultsAfter, Behind]

/-- **The comparison of neighbours is enough**: fields that follow `previous` have no fault exactly
when each ends within the record and they lie one behind the other. -/
theorem fieldFaults_eq_nil_iff {c : Contents} {r : Record} {previous : Option Field}
    {fs : List Field} :
    c.fieldFaults r previous fs = [] ↔
      (∀ f ∈ fs, c.fieldEnd f ≤ r.sizeBits) ∧
        (r.isUnion = false → (previous.toList ++ fs).Pairwise c.Behind) := by
  induction fs generalizing previous with
  | nil => cases previous <;> simp [fieldFaults]
  | cons f fs ih =>
    have hend : (if c.fieldEnd f > r.sizeBits then
        [LayoutFault.fieldPastEnd r.sizeBits f.label (c.fieldEnd f)] else []) = [] ↔
          c.fieldEnd f ≤ r.sizeBits := by simp
    simp only [fieldFaults, List.append_eq_nil_iff, ih, hend]
    cases hu : r.isUnion with
    | true => simp
    | false =>
      cases previous with
      | none => simp [and_assoc]
      | some p =>
        simp only [Bool.false_eq_true, if_false, faultsAfter_eq_nil_iff, Option.toList_some,
          List.singleton_append, forall_const, List.forall_mem_cons,
          List.pairwise_cons_cons_iff_of_trans]
        tauto

theorem baseFaults_eq_nil_iff {c : Contents} {r : Record} :
    c.baseFaults r = [] ↔ ∀ b ∈ r.bases, b.isVirtual = false → ∀ t ∈ c.records.entries,
      t.uid = b.uid → t.isOpaque = false → t.isEmptyLayout = false →
        addBits b.offsetBits t.sizeBits ≤ r.sizeBits := by
  rw [baseFaults, List.flatMap_eq_nil_iff]
  refine forall₂_congr fun b _ => ?_
  cases hv : b.isVirtual with
  | true => simp
  | false =>
    simp only [Bool.false_eq_true, if_false, forall_const]
    split
    · next hnone =>
      exact iff_of_true rfl fun t ht hu => absurd hu (Table.get?_eq_none_iff.1 hnone t ht)
    · next target htarget =>
      obtain ⟨hmem, huid⟩ := Table.get?_eq_some_iff.1 htarget
      have honly : ∀ t ∈ c.records.entries, t.uid = b.uid → t = target := fun t ht hu =>
        Table.eq_of_uid_eq ht hmem (hu.trans huid.symm)
      constructor
      · rintro h t ht hu ho he
        obtain rfl := honly t ht hu
        simpa [ho, he] using h
      · intro h
        have := h target hmem huid
        cases ho : target.isOpaque <;> cases he : target.isEmptyLayout <;> simp_all

theorem layoutFaults_eq_nil_iff {c : Contents} {r : Record} :
    c.layoutFaults r = [] ↔ c.SoundLayout r := by
  rw [layoutFaults, List.append_eq_nil_iff, fieldFaults_eq_nil_iff, baseFaults_eq_nil_iff]
  simp only [Option.toList_none, List.nil_append, List.pairwise_iff_getElem, Behind]
  constructor
  · rintro ⟨⟨hends, hapart⟩, hbases⟩
    exact ⟨hends, fun hu i j hij hj => hapart hu i j (Nat.lt_trans hij hj) hj hij, hbases⟩
  · rintro ⟨hends, hapart, hbases⟩
    exact ⟨⟨hends, fun hu i j _ hj hij => hapart hu i j hij hj⟩, hbases⟩

theorem allLayoutFaults_eq_nil_iff {c : Contents} :
    c.allLayoutFaults = [] ↔
      ∀ r ∈ c.records.entries, r.isOpaque = false → c.SoundLayout r := by
  simp only [allLayoutFaults, List.flatMap_eq_nil_iff, ite_eq_left_iff, Bool.not_eq_true,
    List.map_eq_nil_iff, layoutFaults_eq_nil_iff]

/-! ### The check -/

/-- **Contents are valid exactly when the check finds no fault.** -/
theorem faults_eq_nil_iff {c : Contents} : c.faults = [] ↔ c.Valid := by
  simp only [faults, List.append_eq_nil_iff, referenceFaults_eq_nil_iff,
    baseReferenceFaults_eq_nil_iff, parentFaults_eq_nil_iff, allLayoutFaults_eq_nil_iff]
  constructor
  · rintro ⟨⟨⟨⟨⟨⟨hr, he⟩, hf⟩, hg⟩, hbases⟩, hparents⟩, hlayouts⟩
    refine ⟨fun r hm ho f hf' => ?_, fun e hm => he e hm _ (by simp [Entity.references]),
      hf, fun g hm => hg g hm _ (by simp [Entity.references]), hbases, hparents, hlayouts⟩
    exact hr r hm _ (by simpa [Entity.references, ho] using ⟨f, hf', rfl⟩)
  · rintro ⟨hr, he, hf, hg, hbases, hparents, hlayouts⟩
    refine ⟨⟨⟨⟨⟨⟨fun r hm t ht => ?_, fun e hm t ht => ?_⟩, hf⟩, fun g hm t ht => ?_⟩, hbases⟩,
      hparents⟩, hlayouts⟩
    · cases ho : r.isOpaque
      · obtain ⟨f, hf', rfl⟩ : ∃ f ∈ r.fields, f.type = t := by
          simpa [Entity.references, ho] using ht
        exact hr r hm ho f hf'
      · simp [Entity.references, ho] at ht
    · obtain rfl : t = e.underlying := by simpa [Entity.references] using ht
      exact he e hm
    · obtain rfl : t = g.type := by simpa [Entity.references] using ht
      exact hg g hm

/-- **A layout depends** on the sizes of elements and on the records that are complete. -/
theorem SoundLayout.congr {c d : Contents} {r : Record} (h : c.SoundLayout r)
    (hsize : ∀ u, c.elementSize u = d.elementSize u)
    (hrecords : ∀ t ∈ d.records.entries, t.isOpaque = false → t ∈ c.records.entries) :
    d.SoundLayout r := by
  have hend : ∀ f, c.fieldEnd f = d.fieldEnd f := by
    intro f
    simp only [fieldEnd, fieldExtent, typeExtent, hsize]
  constructor
  case ends =>
    intro f hf
    rw [← hend f]
    exact h.ends f hf
  case apart =>
    intro hu i j hij hj
    rw [← hend]
    exact h.apart hu i j hij hj
  case bases =>
    intro b hb hv t ht hu ho
    exact h.bases b hb hv t (hrecords t ht ho) hu ho

/-! ### Order of insertion -/

section Congr
variable {c d : Contents} (h : c.Agrees d)
include h

theorem Agrees.knows_iff (u : Uid) : c.Knows u ↔ d.Knows u := by
  simp only [Knows, h.records.mem_iff, h.enums.mem_iff, h.functions.mem_iff]

theorem Agrees.resolved_iff (t : TypeRef) : c.Resolved t ↔ d.Resolved t := by
  simp only [Resolved, h.knows_iff]

theorem Agrees.elementSize_eq (u : Uid) : c.elementSize u = d.elementSize u := by
  rw [elementSize, elementSize, h.records.get?_eq, h.enums.get?_eq]

/-- **Validity does not depend on the order** in which entities were added. -/
theorem Agrees.valid (hc : c.Valid) : d.Valid where
  recordTypes r hr ho f hf :=
    (h.resolved_iff _).1 (hc.recordTypes r (h.records.mem_iff.2 hr) ho f hf)
  enumTypes e he := (h.resolved_iff _).1 (hc.enumTypes e (h.enums.mem_iff.2 he))
  functionTypes f hf t ht :=
    (h.resolved_iff _).1 (hc.functionTypes f (h.functions.mem_iff.2 hf) t ht)
  globalTypes g hg := (h.resolved_iff _).1 (hc.globalTypes g (h.globals.mem_iff.2 hg))
  bases r hr ho b hb := by
    obtain ⟨t, ht, hu⟩ := hc.bases r (h.records.mem_iff.2 hr) ho b hb
    exact ⟨t, h.records.mem_iff.1 ht, hu⟩
  parents f hf p hp := by
    obtain ⟨t, ht, hu⟩ := hc.parents f (h.functions.mem_iff.2 hf) p hp
    exact ⟨t, h.records.mem_iff.1 ht, hu⟩
  layouts r hr ho := (hc.layouts r (h.records.mem_iff.2 hr) ho).congr h.elementSize_eq
    fun t ht _ => h.records.mem_iff.2 ht

end Congr

end Contents

namespace Snapshot

theorem valid (s : Snapshot) : s.contents.Valid :=
  Contents.faults_eq_nil_iff.1 s.sound

/-- Contents become a snapshot exactly when they are valid. -/
theorem ofContents_eq_ok_iff {c : Contents} {s : Snapshot} :
    ofContents c = .ok s ↔ s.contents = c := by
  rw [ofContents]
  split
  · next h =>
    constructor
    · rintro ⟨⟩
      rfl
    · rintro rfl
      rfl
  · next f fs h =>
    refine iff_of_false (by simp) ?_
    rintro rfl
    exact absurd (h.symm.trans s.sound) (by simp)

end Snapshot

end HeaderAbi
