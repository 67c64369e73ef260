import HeaderAbi.Proofs.Diff.FieldPairing
import HeaderAbi.Proofs.Snapshot.Table

/-!
# What pairing leaves over

Pairing walks along one list and takes partners out of the other, so the two sides are treated
differently.  When items suit each other by an equal key, what is left over does not tell which side
was walked along: of the items of one key, the first ones are taken on both sides, as many as the
shorter side has.

* `surplus`: the items that remain when every key of a list takes away the first item that has it.
* `pairFirst_swap`: both leftovers of a pairing are such a surplus.
* **The fields that are gone from `old` to `new` are those that are new from `new` to `old`**
  (`ofFields_removed_swap`, `renamings_removed_swap`).
-/

namespace HeaderAbi.FieldPairing

variable {α κ : Type}

/-! ### Surplus items -/

section Surplus
variable [DecidableEq κ]

/-- The items that remain when every key takes away the first item that has it. -/
def surplus (key : α → κ) : List α → List κ → List α
  | [], _ => []
  | a :: as, ks =>
    if key a ∈ ks then surplus key as (ks.erase (key a)) else a :: surplus key as ks

variable {key : α → κ}

theorem surplus_nil (as : List α) : surplus key as [] = as := by
  induction as with
  | nil => rfl
  | cons a as ih => simp [surplus, ih]

/-- The order of the keys does not matter. -/
theorem surplus_perm {ks ls : List κ} (h : ks.Perm ls) (as : List α) :
    surplus key as ks = surplus key as ls := by
  induction as generalizing ks ls with
  | nil => rfl
  | cons a as ih => simp only [surplus, h.mem_iff, ih h, ih (h.erase (key a))]

/-- A key takes away the first item that has it. -/
theorem surplus_cons (k : κ) (as : List α) (ks : List κ) :
    surplus key as (k :: ks) = surplus key (as.eraseP (key · == k)) ks := by
  induction as generalizing ks with
  | nil => rfl
  | cons a as ih =>
    by_cases hk : key a = k
    · have herase : (a :: as).eraseP (key · == k) = as := List.eraseP_cons_of_pos (by simp [hk])
      rw [herase, surplus, if_pos (by simp [hk]), hk, List.erase_cons_head]
    · have herase : (a :: as).eraseP (key · == k) = a :: as.eraseP (key · == k) :=
        List.eraseP_cons_of_neg (by simp [hk])
      have hmem : key a ∈ k :: ks ↔ key a ∈ ks := by simp [hk]
      have hkeys : (k :: ks).erase (key a) = k :: ks.erase (key a) :=
        List.erase_cons_tail (by simp [Ne.symm hk])
      rw [herase, surplus, surplus, hkeys, ih, ih]
      simp only [hmem]

end Surplus

theorem takeFirst_eq_map_find? (test : α → Bool) (as : List α) :
    takeFirst test as = (as.find? test).map fun a => (a, as.eraseP test) := by
  induction as with
  | nil => rfl
  | cons a as ih =>
    cases h : test a with
    | true => simp [takeFirst, h]
    | false => simp [takeFirst, h, ih, Function.comp_def]

/-! ### Pairing by a key -/

section Keyed
variable [DecidableEq κ] {suits : α → α → Bool} {key : α → κ}
  (h : ∀ a b, suits a b = true ↔ key b = key a)
include h

/-- The items without partner are those for which the other list has no key left. -/
theorem pairFirst_alone (as bs : List α) :
    (pairFirst suits as bs).2.1 = surplus key as (bs.map key) := by
  induction as generalizing bs with
  | nil => rfl
  | cons a as ih =>
    rw [pairFirst]
    split
    · next b bs' hb =>
      obtain ⟨hsuits, hperm⟩ := takeFirst_eq_some hb
      have hkey : key b = key a := (h a b).1 hsuits
      have hkeys : (key a :: bs'.map key).Perm (bs.map key) := by simpa [hkey] using hperm.map key
      have hmem : key a ∈ bs.map key := hkeys.mem_iff.1 List.mem_cons_self
      have hrest : (bs'.map key).Perm ((bs.map key).erase (key a)) := by
        simpa using hkeys.erase (key a)
      rw [surplus, if_pos hmem, ih bs', surplus_perm hrest]
    · next hnone =>
      rw [takeFirst_eq_map_find?, Option.map_eq_none_iff, List.find?_eq_none] at hnone
      have hmem : key a ∉ bs.map key := by simpa [h] using hnone
      rw [surplus, if_neg hmem, ← ih bs]

/-- The partners left over are those that no key has taken away. -/
theorem pairFirst_free (as bs : List α) :
    (pairFirst suits as bs).2.2 = surplus key bs (as.map key) := by
  have htest : ∀ a, suits a = (key · == key a) := fun a =>
    funext fun b => Bool.eq_iff_iff.2 (by simp [h])
  induction as generalizing bs with
  | nil => exact (surplus_nil bs).symm
  | cons a as ih =>
    rw [pairFirst, List.map_cons, surplus_cons, ← htest]
    split
    · next b bs' hb =>
      rw [takeFirst_eq_map_find?] at hb
      obtain ⟨_, -, hpair⟩ := Option.map_eq_some_iff.1 hb
      obtain ⟨-, hrest⟩ := Prod.ext_iff.1 hpair
      exact (ih bs').trans (congrArg (surplus key · _) hrest.symm)
    · next hnone =>
      rw [takeFirst_eq_map_find?, Option.map_eq_none_iff, List.find?_eq_none] at hnone
      rw [ih bs, List.eraseP_of_forall_not hnone]

/-- **What pairing by a key leaves over is the same from both sides.** -/
theorem pairFirst_swap (as bs : List α) :
    (pairFirst suits as bs).2.1 = (pairFirst suits bs as).2.2 := by
  rw [pairFirst_alone h, pairFirst_free h]

end Keyed

/-! ### Fields of one name -/

/-- Fields of one name suit by their offsets. -/
theorem suits_iff_offset_eq (o n : Placed) : (n.field.offsetBits == o.field.offsetBits) = true ↔
    n.field.offsetBits = o.field.offsetBits := beq_iff_eq

theorem ofGroup_removed_swap (old new : List Placed) :
    (ofGroup old new).removed = (ofGroup new old).added := by
  simp only [ofGroup, pairFirst_swap suits_iff_offset_eq old new,
    pairFirst_swap suits_iff_offset_eq new old]

/-! ### Records -/

theorem eq_of_index_eq {fields : List Field} {p q : Placed} (hp : p ∈ place fields)
    (hq : q ∈ place fields) (h : p.index = q.index) : p = q := by
  have hfield : some p.field = some q.field := by
    rw [← mem_place.1 hp, ← mem_place.1 hq, h]
  cases p; cases q
  cases h
  cases hfield
  rfl

theorem names_perm (old new : List Field) : (names old new).Perm (names new old) := by
  refine (List.perm_ext_iff_of_nodup (nodup_eraseDups _) (nodup_eraseDups _)).2 fun name => ?_
  simp only [List.mem_eraseDups, List.map_append, List.mem_append, or_comm]

/-- **Fields without a partner of their name** are the same from both sides. -/
theorem ofFields_removed_swap (old new : List Field) :
    (ofFields old new).removed = (ofFields new old).added := by
  have hgroups : ((names old new).flatMap fun name => (groupOf old new name).removed).Perm
      ((names new old).flatMap fun name => (groupOf new old name).added) := by
    simp only [groupOf, ofGroup_removed_swap]
    exact (names_perm old new).flatMap_right _
  have hplaced : ∀ p ∈ (ofFields old new).removed, p ∈ place old := fun p hp =>
    (ofFields_perm_old old new).mem_iff.1 (List.mem_append_right _ hp)
  simp only [ofFields, List.flatMap_map] at hplaced ⊢
  refine mergeSort_eq_of_perm (by simp; omega) (by simp; omega) hgroups fun p hp q hq hpq hqp => ?_
  refine eq_of_index_eq (hplaced p (List.mem_mergeSort.2 hp))
    (hplaced q (List.mem_mergeSort.2 hq)) ?_
  simp only [decide_eq_true_eq] at hpq hqp
  exact Nat.le_antisymm hpq hqp

/-- **Fields that are gone, renamed ones apart,** are new from the other side. -/
theorem renamings_removed_swap (old new : List Field) :
    (ofFields old new).renamings.2.1 = (ofFields new old).renamings.2.2 := by
  have hrenaming : ∀ o n : Placed, isRenaming o n = true ↔
      (n.field.offsetBits, n.field.bitWidth, n.field.type) =
        (o.field.offsetBits, o.field.bitWidth, o.field.type) := by
    simp [isRenaming, and_assoc]
  rw [renamings, renamings, ofFields_removed_swap old new, ← ofFields_removed_swap new old]
  exact pairFirst_swap hrenaming _ _

end HeaderAbi.FieldPairing
