import HeaderAbi.Diff.FunctionChanges
import HeaderAbi.Proofs.Snapshot.Table

/-!
# Pairing functions by name

**A lost and a gained function are paired exactly when each is the only one of their name on its
side** (`mem_namePairs`).  So the pairs do not depend on which table is called the old one
(`mem_namePairs_swap`), on the order of the tables (`namePairs_congr`), nor on the order in which
the names are visited (`pairsVisiting_eq_namePairs`).
-/

namespace HeaderAbi

namespace Table

variable {α : Type} [Entity α]

theorem without_nodup (t other : Table α) : (t.without other).Nodup :=
  t.entries_nodup.filter _

theorem Agrees.without_perm {t t' other other' : Table α} (h : t.Agrees t')
    (h' : other.Agrees other') : (t.without other).Perm (t'.without other') := by
  refine (List.perm_ext_iff_of_nodup (t.without_nodup _) (t'.without_nodup _)).2 fun a => ?_
  simp only [mem_without, h.mem_iff, h'.mem_iff]

end Table

/-- A test picks one item exactly when it holds of that item alone. -/
theorem filter_eq_singleton_iff {α : Type} {p : α → Bool} {l : List α} (hl : l.Nodup) {a : α} :
    l.filter p = [a] ↔ a ∈ l ∧ p a = true ∧ ∀ b ∈ l, p b = true → b = a := by
  constructor
  · intro h
    have hmem : ∀ b, b ∈ l.filter p ↔ b = a := fun b => by rw [h, List.mem_singleton]
    obtain ⟨ha, hpa⟩ := List.mem_filter.1 ((hmem a).2 rfl)
    exact ⟨ha, hpa, fun b hb hpb => (hmem b).1 (List.mem_filter.2 ⟨hb, hpb⟩)⟩
  · rintro ⟨ha, hpa, honly⟩
    refine List.perm_singleton.1 ?_
    refine (List.perm_ext_iff_of_nodup (hl.filter p) (List.nodup_singleton a)).2 fun b => ?_
    rw [List.mem_filter, List.mem_singleton]
    constructor
    · rintro ⟨hb, hpb⟩
      exact honly b hb hpb
    · rintro rfl
      exact ⟨ha, hpa⟩

namespace Matching

/-- The function is the only one of its name among some. -/
def Sole (f : Function) (fs : List Function) : Prop :=
  f ∈ fs ∧ ∀ g ∈ fs, g.name = f.name → g = f

theorem filter_name_eq_singleton_iff {fs : List Function} (hfs : fs.Nodup) {name : String}
    {f : Function} : fs.filter (·.name == name) = [f] ↔ f.name = name ∧ Sole f fs := by
  rw [filter_eq_singleton_iff hfs]
  simp only [beq_iff_eq, Sole]
  constructor
  · rintro ⟨hf, rfl, honly⟩
    exact ⟨rfl, hf, honly⟩
  · rintro ⟨rfl, hf, honly⟩
    exact ⟨hf, rfl, honly⟩

/-- The functions that one name pairs. -/
def pairOfName (old new : Table Function) (name : String) : Option (Function × Function) :=
  match (old.without new).filter (·.name == name), (new.without old).filter (·.name == name) with
  | [o], [n] => some (o, n)
  | _, _ => none

theorem pairOfName_eq_some_iff {old new : Table Function} {name : String} {o n : Function} :
    pairOfName old new name = some (o, n) ↔
      (o.name = name ∧ Sole o (old.without new)) ∧ n.name = name ∧ Sole n (new.without old) := by
  rw [← filter_name_eq_singleton_iff (old.without_nodup new),
    ← filter_name_eq_singleton_iff (new.without_nodup old), pairOfName]
  split
  · next o' n' ho hn => simp [ho, hn]
  · next h =>
    refine iff_of_false (by simp) ?_
    rintro ⟨ho, hn⟩
    exact h o n ho hn

/-- **The pairs by name.** -/
theorem mem_namePairs {old new : Table Function} {o n : Function} :
    (o, n) ∈ namePairs old new ↔
      o.name = n.name ∧ Sole o (old.without new) ∧ Sole n (new.without old) := by
  have hpair : ∀ f ∈ old.without new,
      (match (old.without new).filter (·.name == f.name),
          (new.without old).filter (·.name == f.name) with
        | [_], [n] => some (f, n)
        | _, _ => none) = some (o, n) ↔ pairOfName old new f.name = some (o, n) ∧ f = o := by
    intro f hf
    rw [pairOfName]
    split
    · next o' n' ho hn =>
      -- the function itself is among those of its name
      obtain rfl : f = o' := List.mem_singleton.1 (ho ▸ List.mem_filter.2 ⟨hf, by simp⟩)
      simp only [Option.some.injEq, Prod.mk.injEq]
      tauto
    · simp
  rw [namePairs, List.mem_mergeSort, List.mem_filterMap]
  constructor
  · rintro ⟨f, hf, h⟩
    obtain ⟨h, rfl⟩ := (hpair f hf).1 h
    obtain ⟨⟨-, ho⟩, hn, hsole⟩ := pairOfName_eq_some_iff.1 h
    exact ⟨hn.symm, ho, hsole⟩
  · rintro ⟨hname, ho, hn⟩
    exact ⟨o, ho.1, (hpair o ho.1).2
      ⟨pairOfName_eq_some_iff.2 ⟨⟨rfl, ho⟩, hname.symm, hn⟩, rfl⟩⟩

theorem mem_namePairs_swap {old new : Table Function} {o n : Function} :
    (o, n) ∈ namePairs old new ↔ (n, o) ∈ namePairs new old := by
  rw [mem_namePairs, mem_namePairs, eq_comm, and_congr_right_iff]
  exact fun _ => and_comm

/-- A way of matching pairs the same functions from both sides. -/
theorem mem_pairs_swap {m : Matching} {old new : Table Function} {o n : Function} :
    (o, n) ∈ m.pairs old new ↔ (n, o) ∈ m.pairs new old := by
  cases m with
  | byUid => simp [pairs]
  | byName => exact mem_namePairs_swap

/-! ### The order of the pairs -/

theorem namePairs_nodup (old new : Table Function) : (namePairs old new).Nodup := by
  rw [namePairs, (List.mergeSort_perm _ _).nodup_iff]
  refine List.Nodup.filterMap (fun f g p hf hg => ?_) (old.without_nodup new)
  -- the old side of the pair is the function itself
  split at hf <;> split at hg <;> grind

theorem mergeSort_namePairs (old new : Table Function) :
    ((namePairs old new).mergeSort fun a b => a.2.uid.le b.2.uid) = namePairs old new := by
  have trans : ∀ a b c : Function × Function, a.2.uid.le b.2.uid = true →
      b.2.uid.le c.2.uid = true → a.2.uid.le c.2.uid = true :=
    fun a b c => Uid.le_trans a.2.uid b.2.uid c.2.uid
  have total : ∀ a b : Function × Function, (a.2.uid.le b.2.uid || b.2.uid.le a.2.uid) = true :=
    fun a b => Uid.le_total a.2.uid b.2.uid
  refine List.mergeSort_of_pairwise ?_
  rw [namePairs]
  exact List.pairwise_mergeSort trans total _

/-- Pairs of one new identifier are the same pair. -/
theorem eq_of_mem_namePairs {old new : Table Function} {p q : Function × Function}
    (hp : p ∈ namePairs old new) (hq : q ∈ namePairs old new) (h : p.2.uid = q.2.uid) : p = q := by
  obtain ⟨hpname, hpo, hpn⟩ := mem_namePairs.1 hp
  obtain ⟨hqname, hqo, hqn⟩ := mem_namePairs.1 hq
  have hn : p.2 = q.2 :=
    Table.eq_of_uid_eq (Table.mem_without.1 hpn.1).1 (Table.mem_without.1 hqn.1).1 h
  have ho : p.1 = q.1 := hqo.2 p.1 hpo.1 (by rw [hpname, hqname, hn])
  exact Prod.ext ho hn

/-- The pairs by name in whatever order are sorted into the same list. -/
theorem mergeSort_eq_namePairs {old new : Table Function} {ps : List (Function × Function)}
    (hps : ps.Nodup) (h : ∀ p, p ∈ ps ↔ p ∈ namePairs old new) :
    (ps.mergeSort fun a b => a.2.uid.le b.2.uid) = namePairs old new := by
  have hperm : ps.Perm (namePairs old new) :=
    (List.perm_ext_iff_of_nodup hps (namePairs_nodup old new)).2 h
  rw [mergeSort_uid_eq_of_perm (fun p : Function × Function => p.2.uid) hperm]
  · exact mergeSort_namePairs old new
  · exact fun p hp q hq => eq_of_mem_namePairs ((h p).1 hp) ((h q).1 hq)

/-- **The pairs by name do not depend on the order of the tables.** -/
theorem namePairs_congr {old old' new new' : Table Function} (hold : old.Agrees old')
    (hnew : new.Agrees new') : namePairs old new = namePairs old' new' := by
  have hlost := hold.without_perm hnew
  have hgained := hnew.without_perm hold
  rw [← mergeSort_namePairs old new]
  refine mergeSort_eq_namePairs (namePairs_nodup old new) fun ⟨o, n⟩ => ?_
  simp only [mem_namePairs, Sole, hlost.mem_iff, hgained.mem_iff]

/-- The pairs that are found by visiting names one after the other, sorted. -/
def pairsVisiting (names : List String) (old new : Table Function) : List (Function × Function) :=
  (names.filterMap (pairOfName old new)).mergeSort fun a b => a.2.uid.le b.2.uid

/-- The names of the lost functions, each once. -/
structure Lists (names : List String) (old new : Table Function) : Prop where
  nodup : names.Nodup
  mem_iff : ∀ name, name ∈ names ↔ ∃ f ∈ old.without new, f.name = name

/-- **The names of the lost functions may be visited in any order.** -/
theorem pairsVisiting_eq_namePairs {old new : Table Function} {names : List String}
    (h : Lists names old new) : pairsVisiting names old new = namePairs old new := by
  refine mergeSort_eq_namePairs (.filterMap ?_ h.nodup) fun ⟨o, n⟩ => ?_
  · intro a b p ha hb
    obtain ⟨⟨hpa, -⟩, -⟩ := pairOfName_eq_some_iff.1 ha
    obtain ⟨⟨hpb, -⟩, -⟩ := pairOfName_eq_some_iff.1 hb
    exact hpa.symm.trans hpb
  · rw [List.mem_filterMap, mem_namePairs]
    constructor
    · rintro ⟨name, -, hp⟩
      obtain ⟨⟨rfl, ho⟩, hname, hn⟩ := pairOfName_eq_some_iff.1 hp
      exact ⟨hname.symm, ho, hn⟩
    · rintro ⟨hname, ho, hn⟩
      exact ⟨o.name, (h.mem_iff _).2 ⟨o, ho.1, rfl⟩,
        pairOfName_eq_some_iff.2 ⟨⟨rfl, ho⟩, hname.symm, hn⟩⟩

end Matching

end HeaderAbi
