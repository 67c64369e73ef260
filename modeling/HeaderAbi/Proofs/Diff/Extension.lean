import HeaderAbi.Proofs.Diff.Unchanged
import HeaderAbi.Proofs.Snapshot.UnionLaws

/-!
# Comparison with an extension

A snapshot extends another one when it has everything that the other has, where records that were
declared only may have been completed.  Every merge extends its parts (`extends_of_mem_merge`).

Comparing a snapshot with an extension of it finds nothing that is gone, so nothing is paired by
name either (`Extends.pairs_eq_nil`), and what is complete is unchanged.  What remains are additions
and remarks on records that were declared only (`Extends.found_cases`).  So **each unit is
compatible with the merge that contains it** (`compare_merge`).
-/

namespace HeaderAbi

/-! ### Additions and forward declarations -/

/-- Nothing that becomes of a forward declaration is more than a remark. -/
theorem Record.toChange_of_isOpaque {o n : Record} (ho : o.isOpaque = true) {c : RecordChange}
    (hc : c ∈ o.changes n) :
    c.toChange.kind = .changed ∧ c.toChange.impact = .informational := by
  rw [changes, ho, List.mem_append] at hc
  rcases hc with hc | hc
  · rw [RecordChange.when] at hc
    split at hc
    · rw [List.mem_singleton.1 hc]
      exact ⟨rfl, rfl⟩
    · cases hc
  · cases hn : n.isOpaque with
    | true =>
      rw [hn] at hc
      cases hc
    | false =>
      rw [hn] at hc
      rw [List.mem_singleton.1 hc]
      exact ⟨rfl, rfl⟩

namespace Snapshot

/-! ### Extensions -/

/-- A snapshot has what another one has, complete where that is complete. -/
structure Extends (new old : Snapshot) : Prop where
  has : ∀ key, old.contents.Has key → new.contents.Has key
  complete : ∀ i ∈ old.contents.items, i.isOpaque = false → i ∈ new.contents.items

/-- **A merge extends its parts.** -/
theorem extends_of_mem_merge {parts : List (String × Snapshot)} {s : Snapshot}
    (h : merge parts = .ok s) {p : String × Snapshot} (hp : p ∈ parts) : s.Extends p.2 := by
  have hgathers : s.contents.Gathers parts := gathers_of_merge h
  constructor
  case has =>
    intro key hkey
    exact (hgathers.has_iff key).2 ⟨p, hp, hkey⟩
  case complete =>
    intro i hi hcomplete
    exact (hgathers.complete_iff i hcomplete).2 ⟨p, hp, hi⟩

namespace Extends

variable {m : Matching} {old new : Snapshot} (h : new.Extends old)
include h

/-- No function is lost, so none is found again by its name. -/
theorem pairs_eq_nil : m.pairs old.functions new.functions = [] := by
  rw [List.eq_nil_iff_forall_not_mem]
  intro p hp
  obtain ⟨hlost, -⟩ := Matching.mem_without_of_mem_pairs hp
  obtain ⟨hold, hnot⟩ := Table.mem_without.1 hlost
  have hhas : new.contents.Has (.functions, p.1.uid) :=
    h.has _ ⟨.function p.1, Contents.function_mem_items.2 hold, rfl⟩
  obtain ⟨f, hf, huid⟩ := Contents.has_functions_iff.1 hhas
  exact hnot f hf huid

/-- **What is found in an extension** are new entities and remarks on records that were declared
only. -/
theorem found_cases (hnames : ∀ x ∈ old.enums.entries, x.Unambiguous) {e : Entry}
    (he : Found m old new e) :
    (∃ i ∈ new.contents.items, ¬ old.contents.Has i.key ∧ i.addition = e) ∨
      ∃ o ∈ old.records.entries, o.isOpaque = true ∧ ∃ n ∈ new.records.entries,
        n.uid = o.uid ∧ ∃ c ∈ o.changes n, Entity.entry n c.toChange = e := by
  cases he with
  | removed hi hnot _ => exact absurd (h.has _ ⟨_, hi, rfl⟩) hnot
  | added hi hnot _ => exact .inl ⟨_, hi, hnot, rfl⟩
  | paired hp _ =>
    rw [h.pairs_eq_nil] at hp
    cases hp
  | @changed o n e ho hn hkey he =>
    cases hopaque : o.isOpaque with
    | false =>
      -- Complete entities are unchanged.
      have hsame : n = o := Contents.eq_of_key_eq hn (h.complete o ho hopaque) hkey
      have hself : o.changes o = [] := by
        rw [Item.changes_self_eq_nil_iff]
        rintro x rfl
        exact hnames x (Contents.enum_mem_items.1 ho)
      rw [hsame, hself] at he
      cases he
    | true =>
      have hcategory : o.key.1 = .records := Item.category_of_isOpaque hopaque
      obtain ⟨r, rfl⟩ := Item.exists_record_of_category hcategory
      obtain ⟨r', rfl⟩ := Item.exists_record_of_category ((congrArg Prod.fst hkey).trans hcategory)
      obtain ⟨c, hc, hentry⟩ := List.mem_map.1 he
      exact .inr ⟨r, Contents.record_mem_items.1 ho, hopaque, r', Contents.record_mem_items.1 hn,
        congrArg Prod.snd hkey, c, hc, hentry⟩

end Extends

/-! ### Merges -/

/-- **A unit is compatible with the merge that contains it**, provided that its enumerations name
each enumerator once: no entry is a removal or breaking.  Each one is the addition of an entity that
the unit does not have, or a remark on a record that the unit only declares ahead. -/
theorem compare_merge {parts : List (String × Snapshot)} {s : Snapshot} (h : merge parts = .ok s)
    {p : String × Snapshot} (hp : p ∈ parts)
    (hnames : ∀ x ∈ p.2.enums.entries, (x.enumerators.map Enumerator.name).Nodup)
    (m : Matching) (ignored : Uid → Bool) :
    ∀ e ∈ (compare m ignored p.2 s).entries,
      e.kind ≠ .removed ∧ e.isBreaking = false ∧
        ((e.kind = .added ∧ e.impact = .nonBreaking ∧ e.isEntityLevel = true ∧
            s.contents.Has e.key ∧ ¬ p.2.contents.Has e.key) ∨
          (e.impact = .informational ∧
            ∃ r ∈ p.2.records.entries, r.isOpaque = true ∧ e.key = (.records, r.uid))) := by
  have hextends : s.Extends p.2 := extends_of_mem_merge h hp
  have hunambiguous : ∀ x ∈ p.2.enums.entries, x.Unambiguous := fun x hx =>
    EnumType.unambiguous_of_nodup (hnames x hx)
  intro e he
  obtain ⟨-, -, hfound⟩ := mem_compare_iff.1 he
  rcases hextends.found_cases hunambiguous hfound with
    ⟨i, hi, hnot, rfl⟩ | ⟨o, ho, hopaque, n, -, huid, c, hc, rfl⟩
  · have hkind : i.addition.kind = .added := Item.kind_addition
    have himpact : i.addition.impact = .nonBreaking := Item.impact_addition
    have hkey : i.addition.key = i.key := Item.key_addition
    refine ⟨by simp [hkind], by simp [Entry.isBreaking, himpact],
      .inl ⟨hkind, himpact, Item.isEntityLevel_addition, ?_, ?_⟩⟩
    · rw [hkey]
      exact ⟨i, hi, rfl⟩
    · rw [hkey]
      exact hnot
  · obtain ⟨hkind, himpact⟩ := Record.toChange_of_isOpaque hopaque hc
    have hkind : (Entity.entry n c.toChange).kind = .changed := hkind
    have himpact : (Entity.entry n c.toChange).impact = .informational := himpact
    have hkey : (Entity.entry n c.toChange).key = (.records, o.uid) := by
      rw [← huid]
      rfl
    exact ⟨by simp [hkind], by simp [Entry.isBreaking, himpact],
      .inr ⟨himpact, o, ho, hopaque, hkey⟩⟩

-- The unit has an enumeration and declares the record ahead that another unit completes.
theorem compare_merge_defined :
    merge [("a.h", begun), ("b.h", defined)] = .ok completed ∧
      begun.enums.entries = [signal] ∧ (signal.enumerators.map Enumerator.name).Nodup ∧
      ∃ e ∈ (compare .byName (fun _ => false) begun completed).entries,
        e.key = (.records, .ofName "Node") ∧ e.isBreaking = false := by
  have hmerge : merge [("a.h", begun), ("b.h", defined)] = .ok completed := rfl
  have hdiffer : ¬ begun.Agrees completed :=
    Contents.not_agrees_of_mem (i := .record (.declared "Node" .struct)) (by decide) (by decide)
  have hfound : Found .byName begun completed (Entity.entry
      (Record.complete "Node" .struct 32 32) RecordChange.completed.toChange) :=
    .changed (o := .record (.declared "Node" .struct))
      (n := .record (.complete "Node" .struct 32 32)) (by decide) (by decide) rfl (by decide)
  have hmem : _ ∈ (compare .byName (fun _ => false) begun completed).entries :=
    mem_compare_iff.2 ⟨hdiffer, rfl, hfound⟩
  have hsignal : (signal.enumerators.map Enumerator.name).Nodup := by decide
  have hnames : ∀ x ∈ begun.enums.entries, (x.enumerators.map Enumerator.name).Nodup :=
    List.forall_mem_singleton.2 hsignal
  exact ⟨hmerge, rfl, hsignal, _, hmem, rfl,
    (compare_merge hmerge List.mem_cons_self hnames .byName _ _ hmem).2.1⟩

end Snapshot

end HeaderAbi
