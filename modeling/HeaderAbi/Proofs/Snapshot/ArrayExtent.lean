import HeaderAbi.Proofs.Snapshot.Validity
import Mathlib.Algebra.BigOperators.Ring.List
import Mathlib.Algebra.GroupWithZero.Nat

/-!
# Extents of arrays

The extent of an array is found one bound at a time, and the product stops at the limit after every
bound.  What comes out is the exact product, cut off once at the end: a product that has stopped can
leave the limit only by a factor of zero, and then the exact product is zero as well
(`min_min_mul` for one bound, `toNat_foldl_mulBits` for all).  So the extent obeys the laws of the
exact product.

* `typeExtent_eq_of_perm`: the order of the bounds has no influence.
* `typeExtent_eq_zero_iff`: the extent is zero exactly if the elements take no room, or a bound is
  zero or left open.
* **The extent of a use that is no pointer or reference is the exact product up to the limit**, with
  both laws (`typeExtent_clamped`).
-/

namespace HeaderAbi.Contents

variable {c : Contents} {t u : TypeRef}

/-! ### The exact product -/

theorem toNat_typeExtent_of_direct (direct : t.isIndirect = false) :
    (c.typeExtent t).toNat = min bitsLimit
      ((c.elementSize t.uid).toNat * (t.use.extents.map fun n => (n.getD 0).toNat).prod) := by
  rw [toNat_typeExtent, direct, if_neg Bool.false_ne_true]

/-- **Two uses of one type with the same bounds in any order** have the same extent. -/
theorem typeExtent_eq_of_perm (ht : t.isIndirect = false) (hu : u.isIndirect = false)
    (huid : u.uid = t.uid) (hperm : u.use.extents.Perm t.use.extents) :
    c.typeExtent u = c.typeExtent t := by
  have hprod := (hperm.map fun n => (n.getD 0).toNat).prod_eq
  rw [← UInt64.toNat_inj, toNat_typeExtent_of_direct ht, toNat_typeExtent_of_direct hu, huid, hprod]

/-! ### Bounds that count zero -/

theorem zero_mem_map_bounds {ns : List (Option UInt64)} :
    (0 ∈ ns.map fun n => (n.getD 0).toNat) ↔ none ∈ ns ∨ some 0 ∈ ns := by
  rw [List.mem_map]
  constructor
  · rintro ⟨_ | n, hn, hzero⟩
    · exact .inl hn
    · obtain rfl : n = 0 := UInt64.toNat_inj.1 hzero
      exact .inr hn
  · rintro (hn | hn)
    · exact ⟨none, hn, rfl⟩
    · exact ⟨some 0, hn, rfl⟩

/-- **An array takes no room** if its elements take none or a bound counts zero, wherever that bound
stands, and not otherwise. -/
theorem typeExtent_eq_zero_iff (direct : t.isIndirect = false) :
    c.typeExtent t = 0 ↔
      c.elementSize t.uid = 0 ∨ none ∈ t.use.extents ∨ some 0 ∈ t.use.extents := by
  have hlimit : bitsLimit ≠ 0 := by decide
  have htoNat (n : UInt64) : n.toNat = 0 ↔ n = 0 := UInt64.toNat_inj (b := 0)
  calc c.typeExtent t = 0
      ↔ (c.typeExtent t).toNat = 0 := (htoNat _).symm
    _ ↔ (c.elementSize t.uid).toNat * (t.use.extents.map fun n => (n.getD 0).toNat).prod = 0 := by
      rw [toNat_typeExtent_of_direct direct, Nat.min_eq_zero_iff, or_iff_right hlimit]
    _ ↔ (c.elementSize t.uid).toNat = 0 ∨ 0 ∈ t.use.extents.map fun n => (n.getD 0).toNat := by
      rw [Nat.mul_eq_zero, List.prod_eq_zero_iff]
    _ ↔ c.elementSize t.uid = 0 ∨ none ∈ t.use.extents ∨ some 0 ∈ t.use.extents :=
      or_congr (htoNat _) zero_mem_map_bounds

/-! ### The extent as a whole -/

/-- **The extent of a use that is no pointer or reference** is the size of the elements times the
exact product of the bounds, up to the greatest 64-bit number, in a snapshot and in contents still
to be checked alike.  So the order of the bounds has no influence, and a bound that is zero or left
open gives zero, even if the product of the bounds before it has stopped at the limit. -/
theorem typeExtent_clamped (c : Contents) (t : TypeRef) (direct : t.isIndirect = false) :
    (c.typeExtent t).toNat = min (2 ^ 64 - 1)
        ((c.elementSize t.uid).toNat * (t.use.extents.map fun n => (n.getD 0).toNat).prod) ∧
      (∀ u : TypeRef, u.isIndirect = false → u.uid = t.uid →
        u.use.extents.Perm t.use.extents → c.typeExtent u = c.typeExtent t) ∧
      (c.typeExtent t = 0 ↔
        c.elementSize t.uid = 0 ∨ none ∈ t.use.extents ∨ some 0 ∈ t.use.extents) := by
  refine ⟨?product, ?order, ?zero⟩
  case product => exact toNat_typeExtent_of_direct direct
  case order =>
    intro u hu huid hperm
    exact typeExtent_eq_of_perm direct hu huid hperm
  case zero => exact typeExtent_eq_zero_iff direct

/-- Contents with one record, a page of 4096 bytes. -/
def onePage : Contents :=
  { Contents.empty with records := ⟨[.complete "Page" .struct 32768 8], by decide⟩ }

/-- An array of pages. -/
def pageArray (bounds : List (Option UInt64)) : TypeRef :=
  .named { uid := ⟨"Page"⟩, extents := bounds }

/-- Two bounds reach the limit, and a third one that is left open gives zero, at either end. -/
theorem typeExtent_clamped_pages :
    (pageArray [some 0x2000000, some 0x2000000, none]).isIndirect = false ∧
      (onePage.typeExtent (pageArray [some 0x2000000, some 0x2000000])).toNat = 2 ^ 64 - 1 ∧
      onePage.typeExtent (pageArray [some 0x2000000, some 0x2000000, none]) = 0 ∧
      onePage.typeExtent (pageArray [none, some 0x2000000, some 0x2000000]) = 0 := by
  obtain ⟨hlimit, -, -⟩ :=
    typeExtent_clamped onePage (pageArray [some 0x2000000, some 0x2000000]) rfl
  obtain ⟨-, horder, hzero⟩ :=
    typeExtent_clamped onePage (pageArray [some 0x2000000, some 0x2000000, none]) rfl
  have hopen : onePage.typeExtent (pageArray [some 0x2000000, some 0x2000000, none]) = 0 :=
    hzero.2 (by decide)
  have hfirst := horder (pageArray [none, some 0x2000000, some 0x2000000]) rfl rfl (by decide)
  exact ⟨rfl, hlimit.trans (by decide), hopen, hfirst.trans hopen⟩

end HeaderAbi.Contents
