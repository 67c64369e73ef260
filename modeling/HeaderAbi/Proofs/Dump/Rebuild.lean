import HeaderAbi.Dump.Document
import HeaderAbi.Proofs.Snapshot.Building

/-!
# Rebuilding snapshots from documents

A document's lists are entities in an order of their own, so what is known of drafts holds of
documents (`rebuild_eq_ofItems`).  **The document of a snapshot is rebuilt into one that holds the
same entities** (`toSnapshot_ofSnapshot`): a document lists entities by identifier, not in the order
in which they were added, and no fault depends on that order.
-/

namespace HeaderAbi

namespace Document

/-- The entities of a document, category after category. -/
def items (d : Document) : List Item :=
  d.records.map .record ++ d.enums.map .enum ++ d.functions.map .function ++ d.globals.map .global

theorem rebuild_eq_ofItems (d : Document) : d.rebuild = Draft.ofItems none d.items := by
  simp only [rebuild, Draft.ofItems, Draft.addAll, items, List.foldlM_append, List.foldlM_map,
    bind_assoc, Draft.addItem]

theorem filterMap_items (d : Document) :
    d.items.filterMap Item.record? = d.records ∧ d.items.filterMap Item.enum? = d.enums ∧
      d.items.filterMap Item.function? = d.functions ∧
        d.items.filterMap Item.global? = d.globals := by
  refine ⟨?_, ?_, ?_, ?_⟩ <;>
    simp [items, List.filterMap_append, List.filterMap_map, Function.comp_def, Item.record?,
      Item.enum?, Item.function?, Item.global?]

end Document

/-- The same contents, each category in the order of identifiers. -/
def Contents.sorted (c : Contents) : Contents where
  records := ⟨c.records.sorted, c.records.sorted_nodup⟩
  enums := ⟨c.enums.sorted, c.enums.sorted_nodup⟩
  functions := ⟨c.functions.sorted, c.functions.sorted_nodup⟩
  globals := ⟨c.globals.sorted, c.globals.sorted_nodup⟩

theorem Contents.sorted_agrees (c : Contents) : c.sorted.Agrees c :=
  ⟨c.records.sorted_perm, c.enums.sorted_perm, c.functions.sorted_perm, c.globals.sorted_perm⟩

/-- The snapshot whose entities stand in the order of identifiers. -/
def Snapshot.sorted (s : Snapshot) : Snapshot where
  contents := s.contents.sorted
  sound := Contents.faults_eq_nil_iff.2 (s.contents.sorted_agrees.symm.valid s.valid)

theorem Snapshot.sorted_agrees (s : Snapshot) : s.sorted.Agrees s :=
  s.contents.sorted_agrees

/-- **A snapshot's document describes the snapshot**, sorted. -/
theorem Document.toSnapshot_ofSnapshot (s : Snapshot) :
    (ofSnapshot s).toSnapshot = .ok s.sorted := by
  obtain ⟨hr, he, hf, hg⟩ := (ofSnapshot s).filterMap_items
  have hrebuild : (ofSnapshot s).rebuild = .ok s.sorted := by
    rw [rebuild_eq_ofItems, Draft.ofItems_eq_ok_iff]
    exact ⟨hr.symm, he.symm, hf.symm, hg.symm⟩
  rw [toSnapshot, hrebuild]
  rfl

end HeaderAbi
