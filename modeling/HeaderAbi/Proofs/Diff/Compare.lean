import HeaderAbi.Diff.Engine
import HeaderAbi.Proofs.Snapshot.Agreement

/-!
# What a comparison lists

The entries of a comparison are those of its categories (`mem_compare`), unless the snapshots agree,
when there are none.  They come in a total order of categories and identifiers (`Entry.le_total`),
and with that order by insertion the comparison of given snapshots evaluates
(`compare_eq_insertionSort`).  An entry for an entity that is gone is breaking exactly when other
binaries could see the entity (`isBreaking_removal`).
-/

namespace HeaderAbi

namespace Entity

variable {α : Type} [Entity α]

@[simp]
theorem uid_entry (a : α) (c : Change) : (entry a c).uid = Entity.uid a := rfl

@[simp]
theorem isBreaking_entry (a : α) (c : Change) :
    (entry a c).isBreaking = decide (c.impact = .breaking) := rfl

theorem isBreaking_removal (a : α) : (removal a).isBreaking = isVisible a := by
  cases h : isVisible a <;> simp [removal, h]

@[simp]
theorem uid_removal (a : α) : (removal a).uid = Entity.uid a := by
  cases h : isVisible a <;> simp [removal, h]

end Entity

namespace Entry

/-- The order of reports, by the position of the category first. -/
theorem le_iff {a b : Entry} : a.le b = true ↔ a.category.rank < b.category.rank ∨
    a.category.rank = b.category.rank ∧ a.uid.le b.uid = true := by
  simp [le]

theorem le_trans (a b c : Entry) (hab : a.le b = true) (hbc : b.le c = true) : a.le c = true := by
  rw [le_iff] at hab hbc ⊢
  rcases hab with hab | ⟨hab, huab⟩ <;> rcases hbc with hbc | ⟨hbc, hubc⟩
  · exact .inl (hab.trans hbc)
  · exact .inl (hbc ▸ hab)
  · exact .inl (hab ▸ hbc)
  · exact .inr ⟨hab.trans hbc, Uid.le_trans _ _ _ huab hubc⟩

theorem le_total (a b : Entry) : (a.le b || b.le a) = true := by
  rw [Bool.or_eq_true, le_iff, le_iff]
  rcases Nat.lt_trichotomy a.category.rank b.category.rank with h | h | h
  · exact .inl (.inl h)
  · rcases Bool.or_eq_true _ _ ▸ Uid.le_total a.uid b.uid with hu | hu
    · exact .inl (.inr ⟨h, hu⟩)
    · exact .inr (.inr ⟨h.symm, hu⟩)
  · exact .inr (.inl h)

end Entry

namespace Snapshot

theorem entries_compare {m : Matching} {ignored : Uid → Bool} {old new : Snapshot}
    (h : ¬ old.Agrees new) : (compare m ignored old new).entries =
      ((Category.all.flatMap (categoryEntries m old new)).mergeSort Entry.le).filter
        fun e => !ignored e.uid := by
  rw [compare, if_neg (mt beq_iff_agrees.1 h)]

/-- **The entries of a comparison** of snapshots that differ. -/
theorem mem_compare {m : Matching} {ignored : Uid → Bool} {old new : Snapshot}
    (h : ¬ old.Agrees new) {e : Entry} :
    e ∈ (compare m ignored old new).entries ↔
      (∃ c, e ∈ categoryEntries m old new c) ∧ ignored e.uid = false := by
  simp only [entries_compare h, List.mem_filter, List.mem_mergeSort, List.mem_flatMap,
    Bool.not_eq_true']
  constructor
  · rintro ⟨⟨c, _, hc⟩, hi⟩
    exact ⟨⟨c, hc⟩, hi⟩
  · rintro ⟨⟨c, hc⟩, hi⟩
    exact ⟨⟨c, by cases c <;> simp [Category.all], hc⟩, hi⟩

theorem compare_of_agrees {m : Matching} {ignored : Uid → Bool} {old new : Snapshot}
    (h : old.Agrees new) : (compare m ignored old new).entries = [] := by
  rw [compare, if_pos (beq_iff_agrees.2 h)]

theorem compare_eq_insertionSort (m : Matching) (ignored : Uid → Bool) (old new : Snapshot) :
    compare m ignored old new = if old == new then {} else
      ⟨((recordEntries old new ++ enumEntries old new ++ functionEntries m old new ++
        globalEntries old new).insertionSort fun a b => a.le b = true).filter
          fun e => !ignored e.uid⟩ := by
  simp only [compare, mergeSort_eq_insertionSort Entry.le_trans Entry.le_total, Category.all,
    List.flatMap_cons, List.flatMap_nil, categoryEntries, List.append_assoc, List.append_nil]

end Snapshot

end HeaderAbi
