import HeaderAbi.Proofs.Diff.Compare
import HeaderAbi.Proofs.Diff.NamePairs

/-!
# Comparisons of snapshots that agree

**A comparison lists the same entries in the same order for snapshots that agree**
(`compare_congr`): every part of it either sorts what it finds or looks it up by identifier, so the
order in which entities were added to either side does not show.
-/

namespace HeaderAbi

@[simp]
theorem Entity.uid_addition {α : Type} [Entity α] (a : α) :
    (Entity.addition a).uid = Entity.uid a := rfl

namespace Table

variable {α : Type} [Entity α] {old old' new new' : Table α}

/-- Among the entities that only one of two tables has, none shares its identifier with another. -/
theorem eq_of_mem_presence {e e' : Entry} (he : e ∈ old.presence new)
    (he' : e' ∈ old.presence new) (h : e.uid = e'.uid) : e = e' := by
  have hapart : ∀ a ∈ old.without new, ∀ b ∈ new.without old, Entity.uid a ≠ Entity.uid b :=
    fun a ha b hb hu => (mem_without.1 ha).2 b (mem_without.1 hb).1 hu.symm
  have hone : ∀ {t t' : Table α}, ∀ a ∈ t.without t', ∀ b ∈ t.without t',
      Entity.uid a = Entity.uid b → a = b := fun a ha b hb =>
    eq_of_uid_eq (mem_without.1 ha).1 (mem_without.1 hb).1
  rcases mem_presence.1 he with ⟨a, ha, rfl⟩ | ⟨a, ha, rfl⟩ <;>
    rcases mem_presence.1 he' with ⟨b, hb, rfl⟩ | ⟨b, hb, rfl⟩ <;>
    simp only [Entity.uid_removal, Entity.uid_addition] at h
  · rw [hone a ha b hb h]
  · exact absurd h (hapart a ha b hb)
  · exact absurd h.symm (hapart b hb a ha)
  · rw [hone a ha b hb h]

theorem presence_congr (hold : old.Agrees old') (hnew : new.Agrees new') :
    old.presence new = old'.presence new' := by
  refine mergeSort_uid_eq_of_perm Entry.uid ?_ fun e he e' he' => ?_
  · exact ((hold.without_perm hnew).map _).append ((hnew.without_perm hold).map _)
  · exact eq_of_mem_presence (List.mem_mergeSort.2 he) (List.mem_mergeSort.2 he')

theorem shared_congr (hold : old.Agrees old') (hnew : new.Agrees new') :
    old.shared new = old'.shared new' := by
  simp only [shared, sorted_congr hold, hnew.get?_eq]

end Table

namespace Snapshot

variable {m : Matching} {old old' new new' : Snapshot} (hold : old.Agrees old')
  (hnew : new.Agrees new')
include hold hnew

theorem pairs_congr :
    m.pairs old.functions new.functions = m.pairs old'.functions new'.functions := by
  cases m with
  | byUid => rfl
  | byName => exact Matching.namePairs_congr hold.functions hnew.functions

theorem categoryEntries_congr (c : Category) :
    categoryEntries m old new c = categoryEntries m old' new' c := by
  cases c with
  | records =>
    simp only [categoryEntries, recordEntries]
    rw [Table.presence_congr hold.records hnew.records,
      Table.shared_congr hold.records hnew.records]
  | enums =>
    simp only [categoryEntries, enumEntries]
    rw [Table.presence_congr hold.enums hnew.enums, Table.shared_congr hold.enums hnew.enums]
  | functions =>
    simp only [categoryEntries, functionEntries, functionPresence, pairs_congr hold hnew]
    rw [Table.presence_congr hold.functions hnew.functions,
      Table.shared_congr hold.functions hnew.functions]
  | globals =>
    simp only [categoryEntries, globalEntries]
    rw [Table.presence_congr hold.globals hnew.globals,
      Table.shared_congr hold.globals hnew.globals]

/-- **Snapshots that agree are compared alike**, on either side. -/
theorem compare_congr (ignored : Uid → Bool) :
    compare m ignored old new = compare m ignored old' new' := by
  have hsame : (old == new) = (old' == new') := Bool.eq_iff_iff.2 <| by
    rw [beq_iff_agrees, beq_iff_agrees]
    exact ⟨fun h => hold.symm.trans (h.trans hnew), fun h => hold.trans (h.trans hnew.symm)⟩
  have hfound : categoryEntries m old new = categoryEntries m old' new' :=
    funext (categoryEntries_congr hold hnew)
  rw [compare, compare, hsame, hfound]

end Snapshot

end HeaderAbi
