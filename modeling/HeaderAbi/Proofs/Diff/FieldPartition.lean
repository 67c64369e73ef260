import HeaderAbi.Proofs.Diff.Reordering

/-!
# Pairing as a partition of the fields

What a comparison of two records relies on, whatever their fields are called and wherever they lie;
names and offsets may be repeated.

* `count_pairFirst`: of the items of one key, pairing takes as many as both sides have, so none of
  the items left over have a partner of their key (`key_ne_of_leftover`).
* `ofGroup`: hence the fields of one name that lie at one offset on both sides are paired first, and
  fields of a name are left over on one side only.
* **Every field is in exactly one part of a pairing**, the parts are in the order of declaration,
  and equal offsets are preferred (`ofFields_partition`).
-/

namespace HeaderAbi.FieldPairing

variable {α β κ : Type}

/-! ### Counting by a key -/

section Keyed
variable [DecidableEq κ] {suits : α → α → Bool} {key : α → κ}
  (h : ∀ a b, suits a b = true ↔ key b = key a)
include h

/-- **Of the items of one key, as many are paired as both sides have.** -/
theorem count_pairFirst (as bs : List α) (k : κ) :
    (pairFirst suits as bs).1.countP (fun p => key p.1 == k) =
      min (as.countP (key · == k)) (bs.countP (key · == k)) := by
  simp only [List.countP_eq_length_filter, pairFirst_filter h, List.length_zip]

/-- Both sides of a pair have the same key, so they are counted alike. -/
theorem count_pairFirst_snd (as bs : List α) (k : κ) :
    (pairFirst suits as bs).1.countP (fun p => key p.2 == k) =
      min (as.countP (key · == k)) (bs.countP (key · == k)) := by
  rw [← count_pairFirst h]
  refine List.countP_congr fun p hp => ?_
  rw [(h p.1 p.2).1 (pairFirst_suits as bs p hp)]

/-- An item and a partner that are both left over have different keys. -/
theorem key_ne_of_leftover {as bs : List α} {a b : α} (ha : a ∈ (pairFirst suits as bs).2.1)
    (hb : b ∈ (pairFirst suits as bs).2.2) : key a ≠ key b := by
  intro hkey
  have hfst := count_pairFirst h as bs (key a)
  have hsnd := count_pairFirst_snd h as bs (key a)
  have hold := (pairFirst_perm_left suits as bs).countP_eq (key · == key a)
  have hnew := (pairFirst_perm_right suits as bs).countP_eq (key · == key a)
  have halone : 0 < (pairFirst suits as bs).2.1.countP (key · == key a) :=
    List.countP_pos_iff.2 ⟨a, ha, beq_self_eq_true _⟩
  have hfree : 0 < (pairFirst suits as bs).2.2.countP (key · == key a) :=
    List.countP_pos_iff.2 ⟨b, hb, by simp [hkey]⟩
  simp only [List.countP_append, List.countP_map, Function.comp_def] at hold hnew
  omega

end Keyed

/-! ### Fields of one name -/

/-- The first pass over the fields of one name, which pairs equal offsets. -/
abbrev atOffset (old new : List Placed) : List (Placed × Placed) × List Placed × List Placed :=
  pairFirst (fun o n : Placed => n.field.offsetBits == o.field.offsetBits) old new

/-- Of the fields of one name at one offset, as many are paired there as both sides have. -/
theorem count_ofGroup (old new : List Placed) (offset : UInt64) :
    (ofGroup old new).matched.countP
        (fun p => p.1.field.offsetBits == offset && p.2.field.offsetBits == offset) =
      min (old.countP (·.field.offsetBits == offset))
        (new.countP (·.field.offsetBits == offset)) := by
  have hfirst : (atOffset old new).1.countP
        (fun p => p.1.field.offsetBits == offset && p.2.field.offsetBits == offset) =
      (atOffset old new).1.countP (fun p => p.1.field.offsetBits == offset) := by
    refine List.countP_congr fun p hp => ?_
    have hoffset := (suits_iff_offset_eq p.1 p.2).1 (pairFirst_suits old new p hp)
    simp [hoffset]
  -- fields that are paired in the order of declaration lie at different offsets
  have hrest : ∀ p ∈ (atOffset old new).2.1.zip (atOffset old new).2.2,
      ¬(p.1.field.offsetBits == offset && p.2.field.offsetBits == offset) = true := by
    rintro ⟨o, n⟩ hp hoffsets
    obtain ⟨ho, hn⟩ := List.of_mem_zip hp
    simp only [Bool.and_eq_true, beq_iff_eq] at hoffsets
    exact key_ne_of_leftover suits_iff_offset_eq ho hn (hoffsets.1.trans hoffsets.2.symm)
  rw [← count_pairFirst suits_iff_offset_eq, ofGroup, List.countP_append, hfirst,
    List.countP_eq_zero.2 hrest, Nat.add_zero]

/-- Fields of a name are left over on one side only. -/
theorem ofGroup_leftover (old new : List Placed) :
    (ofGroup old new).removed = [] ∨ (ofGroup old new).added = [] := by
  simp only [ofGroup, List.drop_eq_nil_iff]
  exact Nat.le_total _ _

/-! ### Groups in the whole -/

theorem flatMap_ite_eq [DecidableEq β] {keys : List β} (hk : keys.Nodup) (key : β) (l : List α) :
    (keys.flatMap fun k => if k = key then l else []) = if key ∈ keys then l else [] := by
  induction keys with
  | nil => rfl
  | cons k ks ih =>
    obtain ⟨hnk, hks⟩ := List.nodup_cons.1 hk
    rw [List.flatMap_cons, ih hks]
    by_cases hkey : k = key
    · subst hkey
      simp [hnk]
    · simp [hkey, Ne.symm hkey]

/-- The pairs of a name in a record are those of its group. -/
theorem filter_matched_perm (old new : List Field) (name : String) :
    ((ofFields old new).matched.filter (·.1.field.name == name)).Perm
      (groupOf old new name).matched := by
  have hgroup : ∀ k, (groupOf old new k).matched.filter (·.1.field.name == name) =
      if k = name then (groupOf old new name).matched else [] := by
    intro k
    have hname : ∀ p ∈ (groupOf old new k).matched, p.1.field.name = k := by
      intro p hp
      have hold := (ofGroup_perm_old _ _).mem_iff.1
        (List.mem_append_left _ (List.mem_map_of_mem (f := Prod.fst) hp))
      simpa using List.of_mem_filter hold
    split
    · next hk =>
      subst hk
      exact List.filter_eq_self.2 fun p hp => by simp [hname p hp]
    · next hk =>
      exact List.filter_eq_nil_iff.2 fun p hp => by simp [hname p hp, hk]
  have hnames : name ∉ names old new → (groupOf old new name).matched = [] := by
    intro hn
    have hold : (place old).filter (·.field.name == name) = [] := by
      refine List.filter_eq_nil_iff.2 fun p hp heq => hn ?_
      rw [List.mem_eraseDups, ← beq_iff_eq.1 heq]
      exact List.mem_map_of_mem (List.mem_append_left _ (field_mem_of_mem_place hp))
    simp [groupOf, hold, ofGroup, pairFirst]
  have hall : ((names old new).flatMap fun k => (groupOf old new k).matched).filter
      (·.1.field.name == name) = (groupOf old new name).matched := by
    rw [List.filter_flatMap]
    simp only [hgroup]
    rw [flatMap_ite_eq (nodup_eraseDups _)]
    split
    · rfl
    · next hn => exact (hnames hn).symm
  rw [← hall]
  simp only [ofFields, List.flatMap_map]
  exact (List.mergeSort_perm _ _).filter _

theorem mem_group_of_mem_removed {old new : List Field} {o : Placed}
    (h : o ∈ (ofFields old new).removed) : o ∈ (groupOf old new o.field.name).removed := by
  simp only [ofFields, List.mem_mergeSort, List.flatMap_map, List.mem_flatMap] at h
  obtain ⟨name, -, h⟩ := h
  have hold := (ofGroup_perm_old _ _).mem_iff.1 (List.mem_append_right _ h)
  have hname : o.field.name = name := by simpa using List.of_mem_filter hold
  rwa [hname]

theorem mem_group_of_mem_added {old new : List Field} {n : Placed}
    (h : n ∈ (ofFields old new).added) : n ∈ (groupOf old new n.field.name).added := by
  simp only [ofFields, List.mem_mergeSort, List.flatMap_map, List.mem_flatMap] at h
  obtain ⟨name, -, h⟩ := h
  have hnew := (ofGroup_perm_new _ _).mem_iff.1 (List.mem_append_right _ h)
  have hname : n.field.name = name := by simpa using List.of_mem_filter hnew
  rwa [hname]

/-! ### Order of declaration -/

theorem map_index_place (fields : List Field) :
    (place fields).map Placed.index = List.range fields.length := by
  rw [List.range_eq_range', ← List.zipIdx_map_snd 0 fields, place, List.map_map]
  rfl

/-- What is sorted by its place in a record and holds no place twice is in strict order. -/
theorem pairwise_lt_mergeSort {index : α → Nat} {l : List α}
    (h : ((l.mergeSort fun a b => index a ≤ index b).map index).Nodup) :
    ((l.mergeSort fun a b => index a ≤ index b).map index).Pairwise (· < ·) := by
  have hsorted : ((l.mergeSort fun a b => index a ≤ index b).map index).Pairwise (· ≤ ·) := by
    rw [List.pairwise_map]
    refine (List.pairwise_mergeSort ?_ ?_ l).imp fun hab => by simpa using hab
    · intro a b c hab hbc
      simp only [decide_eq_true_eq] at *
      omega
    · intro a b
      simp only [Bool.or_eq_true, decide_eq_true_eq]
      omega
  exact (hsorted.and h).imp fun hab => Nat.lt_of_le_of_ne hab.1 hab.2

/-! ### Records -/

/-- A field has a name and lies at an offset. -/
def liesAt (name : String) (offset : UInt64) (f : Field) : Bool :=
  f.name == name && f.offsetBits == offset

/-- What a pairing of the fields of two records is: a partition of both lists in the order of
declaration that keeps names together and prefers equal offsets. -/
structure IsPartition (old new : List Field) (p : FieldPairing) : Prop where
  /-- Every old field, with its place, is in one pair or removed. -/
  old_once : (p.matched.map Prod.fst ++ p.removed).Perm (place old)
  /-- Every new field, with its place, is in one pair or added. -/
  new_once : (p.matched.map Prod.snd ++ p.added).Perm (place new)
  matched_in_order : (p.matched.map (·.1.index)).Pairwise (· < ·)
  removed_in_order : (p.removed.map Placed.index).Pairwise (· < ·)
  added_in_order : (p.added.map Placed.index).Pairwise (· < ·)
  same_name : ∀ q ∈ p.matched, q.2.field.name = q.1.field.name
  one_side : ∀ o ∈ p.removed, ∀ n ∈ p.added, n.field.name ≠ o.field.name
  /-- As many pairs of a name lie at an offset on both sides as there are fields for. -/
  equal_offsets : ∀ name offset,
    p.matched.countP (fun q => liesAt name offset q.1.field && liesAt name offset q.2.field) =
      min (old.countP (liesAt name offset)) (new.countP (liesAt name offset))

section Records
variable (old new : List Field)

theorem nodup_old_indices : (((ofFields old new).matched.map Prod.fst ++
    (ofFields old new).removed).map Placed.index).Nodup := by
  rw [((ofFields_perm_old old new).map Placed.index).nodup_iff, map_index_place]
  exact List.nodup_range

theorem nodup_new_indices : (((ofFields old new).matched.map Prod.snd ++
    (ofFields old new).added).map Placed.index).Nodup := by
  rw [((ofFields_perm_new old new).map Placed.index).nodup_iff, map_index_place]
  exact List.nodup_range

theorem ofFields_matched_in_order :
    ((ofFields old new).matched.map (·.1.index)).Pairwise (· < ·) := by
  have hnodup := nodup_old_indices old new
  rw [List.map_append, List.map_map] at hnodup
  exact pairwise_lt_mergeSort hnodup.of_append_left

theorem ofFields_removed_in_order :
    ((ofFields old new).removed.map Placed.index).Pairwise (· < ·) := by
  have hnodup := nodup_old_indices old new
  rw [List.map_append] at hnodup
  exact pairwise_lt_mergeSort hnodup.of_append_right

theorem ofFields_added_in_order :
    ((ofFields old new).added.map Placed.index).Pairwise (· < ·) := by
  have hnodup := nodup_new_indices old new
  rw [List.map_append] at hnodup
  exact pairwise_lt_mergeSort hnodup.of_append_right

/-- No name has fields that are gone and fields that are new. -/
theorem ofFields_one_side : ∀ o ∈ (ofFields old new).removed, ∀ n ∈ (ofFields old new).added,
    n.field.name ≠ o.field.name := by
  intro o ho n hn hname
  have ho := mem_group_of_mem_removed ho
  have hn := mem_group_of_mem_added hn
  rw [hname] at hn
  rcases ofGroup_leftover ((place old).filter (·.field.name == o.field.name))
    ((place new).filter (·.field.name == o.field.name)) with hnil | hnil
  · rw [groupOf, hnil] at ho
    exact List.not_mem_nil ho
  · rw [groupOf, hnil] at hn
    exact List.not_mem_nil hn

theorem countP_filter_place (fields : List Field) (name : String) (offset : UInt64) :
    ((place fields).filter (·.field.name == name)).countP (·.field.offsetBits == offset) =
      fields.countP (liesAt name offset) := by
  conv_rhs => rw [← map_field_place fields, List.countP_map]
  rw [List.countP_filter]
  refine List.countP_congr fun p _ => ?_
  simp [liesAt, and_comm]

theorem ofFields_equal_offsets (name : String) (offset : UInt64) :
    (ofFields old new).matched.countP
        (fun q => liesAt name offset q.1.field && liesAt name offset q.2.field) =
      min (old.countP (liesAt name offset)) (new.countP (liesAt name offset)) := by
  have hgroup := (filter_matched_perm old new name).countP_eq
    (fun p => p.1.field.offsetBits == offset && p.2.field.offsetBits == offset)
  rw [count_ofGroup, countP_filter_place, countP_filter_place, List.countP_filter] at hgroup
  rw [← hgroup]
  refine List.countP_congr fun q hq => ?_
  have hname := name_eq_of_mem_matched hq
  simp only [liesAt, hname, Bool.and_eq_true]
  tauto

/-- **Pairing is a partition of the fields.**  Every field, counted by its place, is in exactly one
part; pairs and removed fields stand in the order of the old record, added ones in that of the new;
pairs have one name, and a name has fields left over on one side only; and of the fields of one name
at one offset as many are paired there as both sides have. -/
theorem ofFields_partition : IsPartition old new (ofFields old new) where
  old_once := ofFields_perm_old old new
  new_once := ofFields_perm_new old new
  matched_in_order := ofFields_matched_in_order old new
  removed_in_order := ofFields_removed_in_order old new
  added_in_order := ofFields_added_in_order old new
  same_name _ := name_eq_of_mem_matched
  one_side := ofFields_one_side old new
  equal_offsets := ofFields_equal_offsets old new

end Records

end HeaderAbi.FieldPairing
