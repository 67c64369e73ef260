import HeaderAbi.Proofs.Diff.Presence

/-!
# Sections of a report

A report sorts the entries of all categories together.  What it says of one category or of one
entity can be read off the category alone.

* **The entries of a category** are those that are found in it and not ignored
  (`Snapshot.perm_inCategory_compare`).
* The sort is stable, so **the entries on one entity** stand in the order in which they are found
  (`Snapshot.filter_key_compare`).
-/

namespace HeaderAbi

/-- **A stable sort leaves items alone that are in order already**, whatever stands between them. -/
theorem filter_mergeSort {α : Type} {le : α → α → Bool}
    (trans : ∀ a b c, le a b = true → le b c = true → le a c = true)
    (total : ∀ a b, (le a b || le b a) = true) {p : α → Bool} {l : List α}
    (h : (l.filter p).Pairwise fun a b => le a b = true) :
    (l.mergeSort le).filter p = l.filter p := by
  have hkept : (l.filter p).Sublist (l.mergeSort le) :=
    List.sublist_mergeSort trans total h List.filter_sublist
  have hsub : (l.filter p).Sublist ((l.mergeSort le).filter p) := by
    simpa [List.filter_filter] using hkept.filter p
  have hlength : (l.filter p).length = ((l.mergeSort le).filter p).length :=
    ((List.mergeSort_perm l le).filter p).length_eq.symm
  exact (hsub.eq_of_length hlength).symm

namespace Snapshot

variable {m : Matching} {ignored : Uid → Bool} {old new : Snapshot}

/-- The entries of a category among those of all categories. -/
theorem filter_category_found (c : Category) :
    ((Category.all.flatMap (categoryEntries m old new)).filter fun e => e.category = c) =
      categoryEntries m old new c := by
  rw [List.filter_flatMap, Category.flatMap_all (k := c)]
  · refine List.filter_eq_self.2 fun e he => ?_
    exact decide_eq_true (mem_categoryEntries.1 he).2
  · intro d hd
    refine List.filter_eq_nil_iff.2 fun e he hc => hd ?_
    exact (mem_categoryEntries.1 he).2.symm.trans (of_decide_eq_true hc)

/-- **The entries of a category** are those that are found in it and not ignored. -/
theorem perm_inCategory_compare (h : ¬ old.Agrees new) (c : Category) :
    ((compare m ignored old new).inCategory c).Perm
      ((categoryEntries m old new c).filter fun e => !ignored e.uid) := by
  rw [Diff.inCategory, entries_compare h, List.filter_comm, ← filter_category_found c]
  exact ((List.mergeSort_perm _ _).filter _).filter _

/-- **The entries on one entity** stand in the order in which they are found. -/
theorem filter_key_compare (h : ¬ old.Agrees new) {key : Category × Uid}
    (hshown : ignored key.2 = false) :
    ((compare m ignored old new).entries.filter fun e => e.key = key) =
      (categoryEntries m old new key.1).filter fun e => e.uid = key.2 := by
  set found := Category.all.flatMap (categoryEntries m old new) with hfound
  have hshown' : ∀ es : List Entry, ((es.filter fun e => !ignored e.uid).filter
      fun e => e.key = key) = es.filter fun e => e.key = key := fun es => by
    rw [List.filter_filter]
    refine List.filter_congr fun e _ => ?_
    by_cases hkey : e.key = key
    · have huid : e.uid = key.2 := congrArg Prod.snd hkey
      simp [hkey, huid, hshown]
    · simp [hkey]
  -- entries on one entity are equivalent, so in whatever order they stand they are sorted
  have hsorted : (found.filter fun e => e.key = key).Pairwise fun a b => a.le b = true := by
    refine List.pairwise_of_forall_mem_list fun a ha b hb => Entry.le_iff.2 (.inr ?_)
    have ha : a.key = key := of_decide_eq_true (List.mem_filter.1 ha).2
    have hb : b.key = key := of_decide_eq_true (List.mem_filter.1 hb).2
    obtain ⟨hcategory, huid⟩ := Prod.ext_iff.1 (ha.trans hb.symm)
    refine ⟨congrArg Category.rank hcategory, ?_⟩
    rw [show a.uid = b.uid from huid]
    simpa using Uid.le_total b.uid b.uid
  have hkey : (found.filter fun e => e.key = key) =
      (found.filter fun e => e.category = key.1).filter fun e => e.uid = key.2 := by
    rw [List.filter_filter]
    refine List.filter_congr fun e _ => ?_
    simp only [Entry.key, Prod.ext_iff, ← Bool.decide_and, and_comm]
  rw [entries_compare h, hshown', filter_mergeSort Entry.le_trans Entry.le_total hsorted, hkey,
    hfound, filter_category_found]

end Snapshot

end HeaderAbi
