import HeaderAbi.Diff.Presence
import Mathlib.Data.List.Nodup
import Mathlib.Data.List.Sort

/-!
# Looking up and sorting entities

A table holds at most one entity under an identifier, so an entity is found under its identifier
(`get?_eq_some_iff`), also after another one took its place (`get?_put`), and the order of
identifiers leaves only one way to sort a table (`sorted_congr`).  `mem_without` and `mem_shared`
say which entities the two halves of a comparison range over.

Merge sort recurses on halves of a list, where evaluation gets stuck; insertion sort recurses on the
list and answers the same (`mergeSort_eq_insertionSort`).
-/

namespace HeaderAbi

namespace Uid

theorem le_total (a b : Uid) : (a.le b || b.le a) = true := by
  simp only [le, Bool.or_eq_true, decide_eq_true_eq]
  exact String.le_total _ _

theorem le_trans (a b c : Uid) (hab : a.le b = true) (hbc : b.le c = true) : a.le c = true := by
  simp only [le, decide_eq_true_eq] at hab hbc ⊢
  exact String.le_trans hab hbc

theorem le_antisymm {a b : Uid} (hab : a.le b = true) (hba : b.le a = true) : a = b := by
  simp only [le, decide_eq_true_eq] at hab hba
  cases a; cases b
  exact congrArg Uid.mk (String.le_antisymm hab hba)

end Uid

/-! ### Sorting -/

/-- **A list is sorted in one way only** when no two of its items are equivalent. -/
theorem mergeSort_eq_of_perm {α : Type} {le : α → α → Bool}
    (trans : ∀ a b c, le a b = true → le b c = true → le a c = true)
    (total : ∀ a b, (le a b || le b a) = true) {l l' : List α} (h : l.Perm l')
    (antisymm : ∀ a ∈ l, ∀ b ∈ l, le a b = true → le b a = true → a = b) :
    l.mergeSort le = l'.mergeSort le := by
  have hperm : (l.mergeSort le).Perm (l'.mergeSort le) :=
    (List.mergeSort_perm l le).trans (h.trans (List.mergeSort_perm l' le).symm)
  refine List.Perm.eq_of_pairwise (fun a b ha hb hab hba => ?_)
    (List.pairwise_mergeSort trans total l) (List.pairwise_mergeSort trans total l') hperm
  exact antisymm a (List.mem_mergeSort.1 ha) b (h.mem_iff.2 (List.mem_mergeSort.1 hb)) hab hba

/-- **Merge sort is insertion sort** over a total preorder, equivalent items included: both are
stable. -/
theorem mergeSort_eq_insertionSort {α : Type} {le : α → α → Bool}
    (trans : ∀ a b c, le a b = true → le b c = true → le a c = true)
    (total : ∀ a b, (le a b || le b a) = true) (l : List α) :
    l.mergeSort le = l.insertionSort fun a b => le a b = true := by
  induction l with
  | nil => exact List.mergeSort_nil
  | cons a l ih =>
    obtain ⟨before, after, hcons, hl, hbefore⟩ := List.mergeSort_cons trans total a l
    have hsorted := List.pairwise_mergeSort trans total (a :: l)
    rw [hcons, List.pairwise_append, List.pairwise_cons] at hsorted
    have hafter : ∀ b ∈ after, le a b = true := hsorted.2.1.1
    rw [hcons, List.insertionSort_cons, ← ih, hl, List.orderedInsert_eq_take_drop,
      List.takeWhile_append_of_pos (by simpa using hbefore),
      List.dropWhile_append_of_pos (by simpa using hbefore)]
    cases after with
    | nil => simp
    | cons b after => simp [hafter b (List.mem_cons_self ..)]

/-- Items of different identifiers are sorted in one way only. -/
theorem mergeSort_uid_eq_of_perm {α : Type} (key : α → Uid) {l l' : List α} (h : l.Perm l')
    (inj : ∀ a ∈ l, ∀ b ∈ l, key a = key b → a = b) :
    (l.mergeSort fun a b => (key a).le (key b)) = l'.mergeSort fun a b => (key a).le (key b) :=
  mergeSort_eq_of_perm (fun a b c => Uid.le_trans (key a) (key b) (key c))
    (fun a b => Uid.le_total (key a) (key b)) h
    fun a ha b hb hab hba => inj a ha b hb (Uid.le_antisymm hab hba)

namespace Table

variable {α : Type} [Entity α]

/-- Two tables hold the same entities, in whatever order. -/
def Agrees (t t' : Table α) : Prop := t.entries.Perm t'.entries

theorem entries_nodup (t : Table α) : t.entries.Nodup :=
  .of_map _ t.nodup

/-- Tables of the same entities agree. -/
theorem agrees_of_mem_iff {t t' : Table α} (h : ∀ a, a ∈ t.entries ↔ a ∈ t'.entries) :
    t.Agrees t' :=
  (List.perm_ext_iff_of_nodup t.entries_nodup t'.entries_nodup).2 h

/-! ### Lookup -/

theorem eq_of_uid_eq {t : Table α} {a b : α} (ha : a ∈ t.entries) (hb : b ∈ t.entries)
    (h : Entity.uid a = Entity.uid b) : a = b :=
  List.inj_on_of_nodup_map t.nodup ha hb h

theorem contains_iff_exists {t : Table α} {u : Uid} :
    t.contains u = true ↔ ∃ a ∈ t.entries, Entity.uid a = u := by
  rw [contains_iff, List.mem_map]

theorem contains_of_mem {t : Table α} {a : α} (ha : a ∈ t.entries) :
    t.contains (Entity.uid a) = true :=
  contains_iff_exists.2 ⟨a, ha, rfl⟩

/-- **An entity is found under its identifier**, and nothing else is. -/
theorem get?_eq_some_iff {t : Table α} {u : Uid} {a : α} :
    t.get? u = some a ↔ a ∈ t.entries ∧ Entity.uid a = u := by
  constructor
  · intro h
    exact ⟨List.mem_of_find?_eq_some h, by simpa using List.find?_some h⟩
  · rintro ⟨ha, rfl⟩
    obtain ⟨b, hb⟩ : ∃ b, t.get? (Entity.uid a) = some b :=
      Option.isSome_iff_exists.1 (List.find?_isSome.2 ⟨a, ha, by simp⟩)
    have hu : Entity.uid b = Entity.uid a := by simpa using List.find?_some hb
    rw [hb, eq_of_uid_eq (List.mem_of_find?_eq_some hb) ha hu]

theorem get?_eq_none_iff {t : Table α} {u : Uid} :
    t.get? u = none ↔ ∀ a ∈ t.entries, Entity.uid a ≠ u := by
  simp [get?]

/-- **Under an identifier** a table has one entity at most. -/
theorem filter_uid_eq (t : Table α) (u : Uid) :
    (t.entries.filter fun a => Entity.uid a = u) = (t.get? u).toList := by
  obtain ⟨entries, hnodup⟩ := t
  rw [get?]
  induction entries with
  | nil => rfl
  | cons a entries ih =>
    rw [List.map_cons, List.nodup_cons] at hnodup
    obtain ⟨hfresh, hrest⟩ := hnodup
    by_cases hu : Entity.uid a = u
    · have hnone : (entries.filter fun b => Entity.uid b = u) = [] := by
        rw [List.filter_eq_nil_iff]
        intro b hb hbu
        rw [decide_eq_true_eq, ← hu] at hbu
        exact hfresh (List.mem_map.2 ⟨b, hb, hbu⟩)
      simp [hu, hnone]
    · simp only [List.filter_cons, List.find?_cons, hu, decide_false, beq_eq_false_iff_ne.2 hu]
      exact ih hrest

theorem contains_eq_isSome (t : Table α) (u : Uid) : t.contains u = (t.get? u).isSome := by
  rw [Bool.eq_iff_iff, contains_iff_exists, Option.isSome_iff_exists]
  simp only [get?_eq_some_iff]

theorem get?_overwrite {entries : List α} {a : α} {u : Uid} (h : Entity.uid a ≠ u) :
    (overwrite entries a).find? (Entity.uid · == u) = entries.find? (Entity.uid · == u) := by
  induction entries with
  | nil => rfl
  | cons b entries ih =>
    simp only [overwrite, List.map_cons, List.find?_cons] at ih ⊢
    by_cases hb : Entity.uid b = Entity.uid a
    · simp [hb, beq_eq_false_iff_ne.2 h, ih]
    · simp [hb, ih]

/-- **An entity that is put** is found under its identifier, and the others stay. -/
theorem get?_put (t : Table α) (a : α) (u : Uid) :
    (t.put a).get? u = if Entity.uid a = u then some a else t.get? u := by
  split
  · next h =>
    rw [get?_eq_some_iff, put]
    split
    · next hc =>
      obtain ⟨b, hb, hu⟩ := contains_iff_exists.1 hc
      exact ⟨List.mem_map.2 ⟨b, hb, by simp [hu]⟩, h⟩
    · exact ⟨by simp [insert], h⟩
  · next h =>
    rw [put]
    split
    · exact get?_overwrite h
    · simp [get?, insert, h]

/-! ### Order -/

theorem sorted_perm (t : Table α) : t.sorted.Perm t.entries :=
  List.mergeSort_perm _ _

theorem mem_sorted {t : Table α} {a : α} : a ∈ t.sorted ↔ a ∈ t.entries :=
  t.sorted_perm.mem_iff

theorem sorted_pairwise (t : Table α) :
    t.sorted.Pairwise fun a b => (Entity.uid a).le (Entity.uid b) = true :=
  List.pairwise_mergeSort (fun a b c => Uid.le_trans (Entity.uid a) (Entity.uid b) (Entity.uid c))
    (fun a b => Uid.le_total (Entity.uid a) (Entity.uid b)) t.entries

theorem sorted_nodup (t : Table α) : (t.sorted.map Entity.uid).Nodup :=
  (t.sorted_perm.map _).nodup_iff.2 t.nodup

/-- **A table can be sorted in one way only.** -/
theorem sorted_congr {t t' : Table α} (h : t.Agrees t') : t.sorted = t'.sorted :=
  mergeSort_uid_eq_of_perm Entity.uid h fun _ ha _ hb => eq_of_uid_eq ha hb

theorem agrees_of_sorted_eq {t t' : Table α} (h : t.sorted = t'.sorted) : t.Agrees t' :=
  t.sorted_perm.symm.trans (h ▸ t'.sorted_perm)

theorem Agrees.get?_eq {t t' : Table α} (h : t.Agrees t') (u : Uid) : t.get? u = t'.get? u := by
  refine Option.ext fun a => ?_
  rw [get?_eq_some_iff, get?_eq_some_iff, List.Perm.mem_iff h]

/-! ### Comparison -/

theorem mem_without {t other : Table α} {a : α} :
    a ∈ t.without other ↔ a ∈ t.entries ∧ ∀ b ∈ other.entries, Entity.uid b ≠ Entity.uid a := by
  rw [without, List.mem_filter, Bool.not_eq_true', ← Bool.not_eq_true, contains_iff_exists]
  simp

/-- Under an identifier, what one table has and the other lacks. -/
theorem filter_without (t other : Table α) (u : Uid) :
    ((t.without other).filter fun a => Entity.uid a = u) =
      if other.contains u then [] else (t.get? u).toList := by
  have hswap : ((t.without other).filter fun a => Entity.uid a = u) =
      (t.entries.filter fun a => Entity.uid a = u).filter fun _ => !other.contains u := by
    simp only [without, List.filter_filter]
    refine List.filter_congr fun a _ => ?_
    by_cases hu : Entity.uid a = u
    · simp [hu]
    · simp [hu]
  rw [hswap, filter_uid_eq]
  cases other.contains u <;> simp

/-- **The shared entities** are the pairs of one identifier. -/
theorem mem_shared {old new : Table α} {a b : α} :
    (a, b) ∈ old.shared new ↔
      a ∈ old.entries ∧ b ∈ new.entries ∧ Entity.uid b = Entity.uid a := by
  simp only [shared, List.mem_filterMap, Option.map_eq_some_iff, Prod.mk.injEq, mem_sorted,
    get?_eq_some_iff]
  constructor
  · rintro ⟨a', ha', b', ⟨hb', hu⟩, rfl, rfl⟩
    exact ⟨ha', hb', hu⟩
  · rintro ⟨ha, hb, hu⟩
    exact ⟨a, ha, b, ⟨hb, hu⟩, rfl, rfl⟩

theorem mem_presence {old new : Table α} {e : Entry} :
    e ∈ old.presence new ↔
      (∃ a ∈ old.without new, Entity.removal a = e) ∨
        ∃ a ∈ new.without old, Entity.addition a = e := by
  rw [presence, List.mem_mergeSort, List.mem_append, List.mem_map, List.mem_map]

theorem presence_eq_insertionSort (old new : Table α) :
    old.presence new =
      ((old.without new).map Entity.removal ++ (new.without old).map Entity.addition).insertionSort
        fun a b => a.uid.le b.uid = true :=
  mergeSort_eq_insertionSort (fun a b c => Uid.le_trans a.uid b.uid c.uid)
    (fun a b => Uid.le_total a.uid b.uid) _

end Table

end HeaderAbi
