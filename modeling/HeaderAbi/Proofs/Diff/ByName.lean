import Mathlib.Algebra.Order.Group.Multiset
import HeaderAbi.Proofs.Diff.Congruence
import HeaderAbi.Proofs.Diff.Sections
import HeaderAbi.Proofs.Diff.Unchanged

/-!
# Matching by name

Matching functions by name refines matching them by identifier, and each pair by name accounts for
one function that is gone and one that is new.

* A pair takes two entries out of a report (`NamePair.superseded`) and puts others into it
  (`NamePair.superseding`).  **What is left is common to both ways of matching**
  (`Snapshot.coe_functionEntries`).
* No function is in two pairs (`Matching.fst_nodup`, `Matching.snd_nodup`).
* **Under an identifier that only one side knows** a report has the entry for a function that is
  gone or new, or the entries of its pair (`Snapshot.filter_uid_lost`,
  `Snapshot.filter_uid_gained`).
-/

namespace HeaderAbi

/-! ### Pairs -/

namespace NamePair

/-- The entries that a pair takes out of a report. -/
def superseded (p : Function × Function) : List Entry :=
  [Entity.removal p.1, Entity.addition p.2]

/-- The entry for a function that was found again under another identifier. -/
def signatureEntry (o n : Function) : Entry where
  uid := n.uid
  category := .functions
  change := {
    kind := .changed
    impact := .breaking
    detail := "signature changed: " ++ arrow o.uid.text n.uid.text }

/-- The entries for what else has changed. -/
def attributeEntries (o n : Function) : List Entry :=
  (o.changes n).map fun c => Entity.entry n c.toChange

/-- The entries that a pair puts into a report. -/
def superseding (p : Function × Function) : List Entry :=
  signatureEntry p.1 p.2 :: attributeEntries p.1 p.2

theorem uid_of_mem_superseding {p : Function × Function} {e : Entry} (h : e ∈ superseding p) :
    e.uid = p.2.uid := by
  rcases List.mem_cons.1 h with rfl | h
  · rfl
  · obtain ⟨c, -, rfl⟩ := List.mem_map.1 h
    rfl

end NamePair

namespace Matching

variable {old new : Table Function}

/-- **The old function of a pair** is in no other pair. -/
theorem fst_nodup (m : Matching) (old new : Table Function) :
    ((m.pairs old new).map Prod.fst).Nodup := by
  cases m with
  | byUid => exact List.nodup_nil
  | byName =>
    refine (List.nodup_map_iff_inj_on (namePairs_nodup old new)).2 fun p hp q hq h => ?_
    obtain ⟨hpname, -, hpn⟩ := mem_namePairs.1 hp
    obtain ⟨hqname, -, hqn⟩ := mem_namePairs.1 hq
    refine Prod.ext h (hqn.2 p.2 hpn.1 ?_)
    rw [← hpname, ← hqname, h]

/-- **The new function of a pair** is in no other pair. -/
theorem snd_nodup (m : Matching) (old new : Table Function) :
    ((m.pairs old new).map Prod.snd).Nodup := by
  cases m with
  | byUid => exact List.nodup_nil
  | byName =>
    refine (List.nodup_map_iff_inj_on (namePairs_nodup old new)).2 fun p hp q hq h => ?_
    exact eq_of_mem_namePairs hp hq (congrArg Function.uid h)

theorem fst_mem {m : Matching} {p : Function × Function} (hp : p ∈ m.pairs old new) :
    p.1 ∈ old.entries :=
  (Table.mem_without.1 (mem_without_of_mem_pairs hp).1).1

theorem snd_mem {m : Matching} {p : Function × Function} (hp : p ∈ m.pairs old new) :
    p.2 ∈ new.entries :=
  (Table.mem_without.1 (mem_without_of_mem_pairs hp).2).1

section Side
variable {side : Function × Function → Function} {pairs : List (Function × Function)}
  {fs : List Function}

/-- A function is marked as paired exactly when it is in a pair. -/
theorem any_uid_iff (hfs : (fs.map Function.uid).Nodup) (hmem : ∀ p ∈ pairs, side p ∈ fs)
    {f : Function} (hf : f ∈ fs) :
    (pairs.any fun p => (side p).uid == f.uid) = true ↔ ∃ p ∈ pairs, side p = f := by
  simp only [List.any_eq_true, beq_iff_eq]
  constructor
  · rintro ⟨p, hp, hu⟩
    exact ⟨p, hp, List.inj_on_of_nodup_map hfs (hmem p hp) hf hu⟩
  · rintro ⟨p, hp, rfl⟩
    exact ⟨p, hp, rfl⟩

/-- Functions are those that are marked as paired, which are one side of the pairs, and the
others. -/
theorem perm_unpaired (hfs : (fs.map Function.uid).Nodup) (hside : (pairs.map side).Nodup)
    (hmem : ∀ p ∈ pairs, side p ∈ fs) :
    fs.Perm ((fs.filter fun f => !pairs.any fun p => (side p).uid == f.uid) ++ pairs.map side) := by
  have hpaired : (fs.filter fun f => pairs.any fun p => (side p).uid == f.uid).Perm
      (pairs.map side) := by
    refine (List.perm_ext_iff_of_nodup ((List.Nodup.of_map _ hfs).filter _) hside).2 fun f => ?_
    rw [List.mem_filter, List.mem_map]
    constructor
    · rintro ⟨hf, hany⟩
      exact (any_uid_iff hfs hmem hf).1 hany
    · rintro ⟨p, hp, rfl⟩
      exact ⟨hmem p hp, (any_uid_iff hfs hmem (hmem p hp)).2 ⟨p, hp, rfl⟩⟩
  exact (List.filter_append_perm _ fs).symm.trans
    (List.perm_append_comm.trans (hpaired.append_left _))

end Side

theorem any_fst_iff {m : Matching} {o : Function} (ho : o ∈ old.entries) :
    (m.pairs old new).any (·.1.uid == o.uid) = true ↔ ∃ p ∈ m.pairs old new, p.1 = o :=
  any_uid_iff old.nodup (fun _ => fst_mem) ho

theorem any_snd_iff {m : Matching} {n : Function} (hn : n ∈ new.entries) :
    (m.pairs old new).any (·.2.uid == n.uid) = true ↔ ∃ p ∈ m.pairs old new, p.2 = n :=
  any_uid_iff new.nodup (fun _ => snd_mem) hn

/-- The pairs under a new identifier are the one pair that has it. -/
theorem filter_snd_eq {m : Matching} {o n : Function} (hp : (o, n) ∈ m.pairs old new) :
    ((m.pairs old new).filter fun p => p.2.uid = n.uid) = [(o, n)] := by
  rw [filter_eq_singleton_iff (.of_map _ (snd_nodup m old new))]
  refine ⟨hp, decide_eq_true rfl, fun q hq hu => ?_⟩
  have hsame : q.2 = n := Table.eq_of_uid_eq (snd_mem hq) (snd_mem hp) (of_decide_eq_true hu)
  exact List.inj_on_of_nodup_map (snd_nodup m old new) hq hp hsame

end Matching

theorem Table.without_uids_nodup {α : Type} [Entity α] (t other : Table α) :
    ((t.without other).map Entity.uid).Nodup :=
  t.nodup.sublist (List.filter_sublist.map _)

/-- What a table has under an identifier and another one lacks. -/
theorem Table.filter_uid_presence {α : Type} [Entity α] (old new : Table α) (u : Uid) :
    ((old.presence new).filter fun e => e.uid = u) =
      match old.get? u, new.get? u with
      | some a, none => [Entity.removal a]
      | none, some a => [Entity.addition a]
      | _, _ => [] := by
  have hperm : ((old.presence new).filter fun e => e.uid = u).Perm
      (((old.without new).filter fun a => Entity.uid a = u).map Entity.removal ++
        ((new.without old).filter fun a => Entity.uid a = u).map Entity.addition) := by
    refine ((List.mergeSort_perm _ _).filter _).trans (.of_eq ?_)
    simp only [List.filter_append, List.filter_map, Function.comp_def, Entity.uid_removal,
      Entity.uid_addition]
    rfl
  rw [filter_without, filter_without, contains_eq_isSome, contains_eq_isSome] at hperm
  cases ho : old.get? u <;> cases hn : new.get? u <;> simpa [ho, hn] using hperm

namespace Snapshot

open NamePair

variable {m : Matching} {old new : Snapshot}

/-! ### The entries for functions -/

/-- The entries for functions of both sides. -/
def sharedFunctionEntries (old new : Snapshot) : List Entry :=
  (old.functions.shared new.functions).flatMap fun (o, n) => attributeEntries o n

theorem functionEntries_eq (m : Matching) (old new : Snapshot) :
    functionEntries m old new = functionPresence m old new ++ sharedFunctionEntries old new ++
      (m.pairs old.functions new.functions).flatMap superseding := rfl

theorem functionEntries_byUid (old new : Snapshot) :
    functionEntries .byUid old new =
      old.functions.presence new.functions ++ sharedFunctionEntries old new := by
  rw [functionEntries_eq, functionPresence_of_pairs_eq_nil rfl]
  exact List.append_nil _

/-- The entries for functions that are gone or new but in no pair. -/
theorem perm_functionPresence (m : Matching) (old new : Snapshot) :
    let pairs := m.pairs old.functions new.functions
    (functionPresence m old new).Perm
      (((old.functions.without new.functions).filter
          fun f => !pairs.any fun p => p.1.uid == f.uid).map Entity.removal ++
        ((new.functions.without old.functions).filter
          fun f => !pairs.any fun p => p.2.uid == f.uid).map Entity.addition) := by
  intro pairs
  have hremoved : ∀ f : Function, (Entity.removal f).kind = .removed := fun f =>
    Item.kind_removal (i := .function f)
  have hadded : ∀ f : Function, (Entity.addition f).kind = .added := fun _ => rfl
  refine ((List.mergeSort_perm _ _).filter _).trans (.of_eq ?_)
  simp only [List.filter_append, List.filter_map, Function.comp_def, hremoved, hadded,
    Entity.uid_removal, Entity.uid_addition]
  rfl

/-- **What the pairs take out** are entries for functions that are gone or new, each once. -/
theorem coe_presence (m : Matching) (old new : Snapshot) :
    (old.functions.presence new.functions : Multiset Entry) = functionPresence m old new +
      (m.pairs old.functions new.functions).flatMap superseded := by
  have hpresence : (old.functions.presence new.functions).Perm _ := List.mergeSort_perm _ _
  have hlost := Matching.perm_unpaired (Table.without_uids_nodup old.functions new.functions)
    (Matching.fst_nodup m _ _) fun p hp => (Matching.mem_without_of_mem_pairs hp).1
  have hgained := Matching.perm_unpaired (Table.without_uids_nodup new.functions old.functions)
    (Matching.snd_nodup m _ _) fun p hp => (Matching.mem_without_of_mem_pairs hp).2
  have htaken := List.flatMap_append_perm (m.pairs old.functions new.functions)
    (fun p => [Entity.removal p.1]) fun p => [Entity.addition p.2]
  rw [Multiset.coe_eq_coe.2 hpresence, ← Multiset.coe_add,
    Multiset.coe_eq_coe.2 (hlost.map _), Multiset.coe_eq_coe.2 (hgained.map _),
    Multiset.coe_eq_coe.2 (perm_functionPresence m old new), List.map_append, List.map_append,
    ← Multiset.coe_add, ← Multiset.coe_add, ← Multiset.coe_add, add_add_add_comm]
  refine congrArg _ (Multiset.coe_eq_coe.2 ?_)
  rw [List.map_map, List.map_map, List.map_eq_flatMap, List.map_eq_flatMap]
  exact htaken

/-- **The entries of the two ways of matching** have all but those of the pairs in common. -/
theorem coe_functionEntries (m : Matching) (old new : Snapshot) :
    let pairs := m.pairs old.functions new.functions
    (pairs.flatMap superseded : Multiset Entry) ≤ functionEntries .byUid old new ∧
      (functionEntries m old new : Multiset Entry) = functionEntries .byUid old new -
        pairs.flatMap superseded + pairs.flatMap superseding := by
  intro pairs
  have hbyUid : (functionEntries .byUid old new : Multiset Entry) =
      functionPresence m old new + sharedFunctionEntries old new + pairs.flatMap superseded := by
    rw [functionEntries_byUid, ← Multiset.coe_add, coe_presence m, add_right_comm]
  rw [hbyUid, add_tsub_cancel_right, functionEntries_eq, ← Multiset.coe_add, ← Multiset.coe_add]
  exact ⟨Multiset.le_add_left _ _, rfl⟩

/-! ### Entries under one identifier -/

/-- No entry for a function of both sides is under an identifier that one side lacks. -/
theorem filter_uid_shared {u : Uid} (h : old.functions.get? u = none ∨
    new.functions.get? u = none) :
    ((sharedFunctionEntries old new).filter fun e => e.uid = u) = [] := by
  rw [List.filter_eq_nil_iff]
  intro e he hu
  obtain ⟨⟨o, n⟩, hp, he⟩ := List.mem_flatMap.1 he
  obtain ⟨c, -, rfl⟩ := List.mem_map.1 he
  obtain ⟨ho, hn, huid⟩ := Table.mem_shared.1 hp
  have hu : n.uid = u := of_decide_eq_true hu
  rcases h with h | h
  · exact Table.get?_eq_none_iff.1 h o ho (huid.symm.trans hu)
  · exact Table.get?_eq_none_iff.1 h n hn hu

/-- The pairs put entries under new identifiers. -/
theorem filter_uid_superseding (pairs : List (Function × Function)) (u : Uid) :
    ((pairs.flatMap superseding).filter fun e => e.uid = u) =
      (pairs.filter fun p => p.2.uid = u).flatMap superseding := by
  induction pairs with
  | nil => rfl
  | cons p pairs ih =>
    rw [List.flatMap_cons, List.filter_append, ih, List.filter_cons]
    by_cases hu : p.2.uid = u
    · have hall : ((superseding p).filter fun e => e.uid = u) = superseding p :=
        List.filter_eq_self.2 fun e he => by simp [uid_of_mem_superseding he, hu]
      rw [hall, if_pos (decide_eq_true hu), List.flatMap_cons]
    · have hnone : ((superseding p).filter fun e => e.uid = u) = [] :=
        List.filter_eq_nil_iff.2 fun e he => by simp [uid_of_mem_superseding he, hu]
      rw [hnone, if_neg (by simpa using hu), List.nil_append]

/-- **Under the identifier of a function that is gone** there is the entry that says so, unless the
function is in a pair. -/
theorem filter_uid_lost (m : Matching) {o : Function} (ho : o ∈ old.functions.entries)
    (hlost : new.functions.get? o.uid = none) :
    ((functionEntries m old new).filter fun e => e.uid = o.uid) =
      if (m.pairs old.functions new.functions).any (·.1.uid == o.uid) then []
      else [Entity.removal o] := by
  have hold : old.functions.get? o.uid = some o := Table.get?_eq_some_iff.2 ⟨ho, rfl⟩
  have hpaired : ((m.pairs old.functions new.functions).filter fun p => p.2.uid = o.uid) = [] := by
    rw [List.filter_eq_nil_iff]
    intro p hp hu
    exact Table.get?_eq_none_iff.1 hlost p.2 (Matching.snd_mem hp) (of_decide_eq_true hu)
  have hkind : (Entity.removal o).kind = .removed := Item.kind_removal (i := .function o)
  rw [functionEntries_eq, List.filter_append, List.filter_append, filter_uid_shared (.inr hlost),
    filter_uid_superseding, hpaired, List.flatMap_nil, List.append_nil, List.append_nil,
    functionPresence, List.filter_comm, Table.filter_uid_presence, hold, hlost]
  simp only [List.filter_cons, List.filter_nil, hkind, Entity.uid_removal]
  cases (m.pairs old.functions new.functions).any fun p => p.1.uid == o.uid <;> rfl

/-- **Under the identifier of a function that is new** there are the entries of its pair, or the
entry that says that it is new. -/
theorem filter_uid_gained (m : Matching) {n : Function} (hn : n ∈ new.functions.entries)
    (hgained : old.functions.get? n.uid = none) :
    ((functionEntries m old new).filter fun e => e.uid = n.uid) =
      (if (m.pairs old.functions new.functions).any (·.2.uid == n.uid) then []
        else [Entity.addition n]) ++
        ((m.pairs old.functions new.functions).filter fun p => p.2.uid = n.uid).flatMap
          superseding := by
  have hnew : new.functions.get? n.uid = some n := Table.get?_eq_some_iff.2 ⟨hn, rfl⟩
  have hkind : (Entity.addition n).kind = .added := rfl
  rw [functionEntries_eq, List.filter_append, List.filter_append, filter_uid_shared (.inl hgained),
    filter_uid_superseding, List.append_nil, functionPresence, List.filter_comm,
    Table.filter_uid_presence, hgained, hnew]
  simp only [List.filter_cons, List.filter_nil, hkind, Entity.uid_addition]
  cases (m.pairs old.functions new.functions).any fun p => p.2.uid == n.uid <;> rfl

/-! ### Reports -/

/-- Nothing is found of the functions of snapshots that agree. -/
theorem functionEntries_of_agrees (m : Matching) (h : old.Agrees new) :
    functionEntries m old new = [] := by
  have hsame : categoryEntries m old new .functions = categoryEntries m old old .functions :=
    categoryEntries_congr (Contents.Agrees.refl _) h.symm .functions
  exact hsame.trans ((categoryEntries_self_eq_nil_iff old .functions).2 nofun)

/-- The entries for functions in a report, nothing being ignored. -/
theorem perm_inCategory_functions (m : Matching) (old new : Snapshot) :
    ((Engine.compare { matching := m } old new).inCategory .functions).Perm
      (functionEntries m old new) := by
  by_cases hagree : old.Agrees new
  · have hnone : (Engine.compare { matching := m } old new).entries = [] :=
      compare_of_agrees hagree
    rw [Diff.inCategory, hnone, functionEntries_of_agrees m hagree]
    rfl
  · refine (perm_inCategory_compare hagree .functions).trans (.of_eq ?_)
    exact List.filter_eq_self.2 fun _ _ => rfl

/-- The entries on one function in a report, nothing being ignored. -/
theorem filter_key_functions (m : Matching) (old new : Snapshot) (u : Uid) :
    ((Engine.compare { matching := m } old new).entries.filter fun e => e.key = (.functions, u)) =
      (functionEntries m old new).filter fun e => e.uid = u := by
  by_cases hagree : old.Agrees new
  · have hnone : (Engine.compare { matching := m } old new).entries = [] :=
      compare_of_agrees hagree
    rw [hnone, functionEntries_of_agrees m hagree]
    rfl
  · exact filter_key_compare hagree rfl

/-- Categories other than that of the functions do not depend on how functions are matched. -/
theorem perm_inCategory_of_ne (m m' : Matching) (old new : Snapshot) {c : Category}
    (hc : c ≠ .functions) : ((Engine.compare { matching := m } old new).inCategory c).Perm
      ((Engine.compare { matching := m' } old new).inCategory c) := by
  by_cases hagree : old.Agrees new
  · have hnone : ∀ m : Matching, (Engine.compare { matching := m } old new).entries = [] :=
      fun m => compare_of_agrees hagree
    rw [Diff.inCategory, Diff.inCategory, hnone, hnone]
  · have hsame : categoryEntries m old new c = categoryEntries m' old new c := by
      cases c with
      | functions => exact absurd rfl hc
      | _ => rfl
    have hperm : ∀ m, ((Engine.compare { matching := m } old new).inCategory c).Perm
        ((categoryEntries m old new c).filter fun _ => true) := fun m =>
      perm_inCategory_compare hagree c
    exact (hperm m).trans (hsame ▸ (hperm m').symm)

end Snapshot

/-- Two functions with what it takes to pair them by name: each side lacks the identifier of the
other, and of the functions that the other side lacks each is the only one of their name. -/
structure PairedByName (old new : Table Function) (o n : Function) : Prop where
  old_mem : o ∈ old.entries
  new_mem : n ∈ new.entries
  lost : new.get? o.uid = none
  gained : old.get? n.uid = none
  name_eq : o.name = n.name
  old_only : ∀ f ∈ old.entries, new.get? f.uid = none → f.name = o.name → f = o
  new_only : ∀ f ∈ new.entries, old.get? f.uid = none → f.name = n.name → f = n

theorem mem_namePairs_iff {old new : Table Function} {o n : Function} :
    (o, n) ∈ Matching.namePairs old new ↔ PairedByName old new o n := by
  have hsole : ∀ (t other : Table Function) (f : Function), Matching.Sole f (t.without other) ↔
      (f ∈ t.entries ∧ other.get? f.uid = none) ∧
        ∀ g ∈ t.entries, other.get? g.uid = none → g.name = f.name → g = f := fun t other f => by
    simp only [Matching.Sole, Table.mem_without, Table.get?_eq_none_iff, and_imp]
    rfl
  rw [Matching.mem_namePairs, hsole, hsole]
  constructor
  · rintro ⟨hname, ⟨⟨ho, hlost⟩, hold⟩, ⟨hn, hgained⟩, hnew⟩
    exact ⟨ho, hn, hlost, hgained, hname, hold, hnew⟩
  · rintro ⟨ho, hn, hlost, hgained, hname, hold, hnew⟩
    exact ⟨hname, ⟨⟨ho, hlost⟩, hold⟩, ⟨hn, hgained⟩, hnew⟩

namespace Snapshot

open NamePair

/-- **Matching by name refines matching by identifier**, one to one.

* The pairs are the functions with what it takes, and no function is in two of them.
* A report by name is the report by identifier, without the two entries for the functions of each
  pair and with the entries of the pairs, one of which says that the signature has changed.
* Under an identifier that one side lacks there is just the entry for a function that is gone, or
  the one for a function that is new, or those of the one pair to which the function belongs; these
  stand under the new identifier.
* The names of the functions that are gone may be visited in any order. -/
theorem compare_byName (old new : Snapshot) :
    let pairs := Matching.namePairs old.functions new.functions
    let byUid := Engine.compare { matching := .byUid } old new
    let byName := Engine.compare { matching := .byName } old new
    let under (u : Uid) := byName.entries.filter fun e => e.key = (.functions, u)
    (∀ o n, (o, n) ∈ pairs ↔ PairedByName old.functions new.functions o n) ∧
    ((pairs.map Prod.fst).Nodup ∧ (pairs.map Prod.snd).Nodup) ∧
    ((pairs.flatMap superseded : Multiset Entry) ≤ byUid.inCategory .functions ∧
      (byName.inCategory .functions : Multiset Entry) = byUid.inCategory .functions -
        pairs.flatMap superseded + pairs.flatMap superseding) ∧
    (∀ c ≠ .functions, (byName.inCategory c).Perm (byUid.inCategory c)) ∧
    (∀ o n, (o, n) ∈ pairs → under o.uid = [] ∧ under n.uid = superseding (o, n)) ∧
    (∀ o ∈ old.functions.entries, new.functions.get? o.uid = none → (∀ n, (o, n) ∉ pairs) →
      under o.uid = [Entity.removal o]) ∧
    (∀ n ∈ new.functions.entries, old.functions.get? n.uid = none → (∀ o, (o, n) ∉ pairs) →
      under n.uid = [Entity.addition n]) ∧
    ∀ names, Matching.Lists names old.functions new.functions →
      Matching.pairsVisiting names old.functions new.functions = pairs := by
  intro pairs byUid byName under
  have hfst : (pairs.map Prod.fst).Nodup := Matching.fst_nodup .byName _ _
  have hsnd : (pairs.map Prod.snd).Nodup := Matching.snd_nodup .byName _ _
  have hunder : ∀ u, under u = (functionEntries .byName old new).filter fun e => e.uid = u :=
    filter_key_functions .byName old new
  refine ⟨fun o n => mem_namePairs_iff, ⟨hfst, hsnd⟩, ?_, fun c hc => ?_, fun o n hp => ?_,
    fun o ho hlost halone => ?_, fun n hn hgained halone => ?_, fun names hnames => ?_⟩
  · rw [Multiset.coe_eq_coe.2 (perm_inCategory_functions .byUid old new),
      Multiset.coe_eq_coe.2 (perm_inCategory_functions .byName old new)]
    exact coe_functionEntries .byName old new
  · exact perm_inCategory_of_ne _ _ old new hc
  · have hpaired := mem_namePairs_iff.1 hp
    have hold := (Matching.any_fst_iff (m := .byName) hpaired.old_mem).2 ⟨_, hp, rfl⟩
    have hnew := (Matching.any_snd_iff (m := .byName) hpaired.new_mem).2 ⟨_, hp, rfl⟩
    rw [hunder, hunder, filter_uid_lost _ hpaired.old_mem hpaired.lost, if_pos hold,
      filter_uid_gained _ hpaired.new_mem hpaired.gained, if_pos hnew, List.nil_append,
      Matching.filter_snd_eq (m := .byName) hp]
    exact ⟨rfl, List.append_nil _⟩
  · have hold := (Matching.any_fst_iff (m := .byName) ho).not.2 fun ⟨p, hp, h⟩ =>
      halone p.2 (h ▸ hp)
    rw [hunder, filter_uid_lost _ ho hlost, if_neg hold]
  · have hnew := (Matching.any_snd_iff (m := .byName) hn).not.2 fun ⟨p, hp, h⟩ =>
      halone p.1 (h ▸ hp)
    have hnone : (pairs.filter fun p => p.2.uid = n.uid) = [] :=
      List.filter_eq_nil_iff.2 fun p hp hu =>
        hnew (List.any_eq_true.2 ⟨p, hp, by simpa using hu⟩)
    rw [hunder, filter_uid_gained _ hn hgained, if_neg hnew]
    exact congrArg (Entity.addition n :: List.flatMap superseding ·) hnone
  · exact Matching.pairsVisiting_eq_namePairs hnames

/-- A function of one parameter. -/
def unary (name parameter : String) : Function :=
  .free name (.ofName "void") [.ofName parameter]

/-- A function with one form and one with two. -/
def canvas : Snapshot where
  contents := {
    Contents.empty with
    functions := ⟨[unary "draw" "int", unary "scale" "int", unary "scale" "char"], by decide⟩ }
  sound := by decide

/-- Other forms of both functions, one of each. -/
def canvasWidened : Snapshot where
  contents := {
    Contents.empty with
    functions := ⟨[unary "scale" "long", unary "draw" "long"], by decide⟩ }
  sound := by decide

theorem compare_byName_canvas :
    let byName := Engine.compare { matching := .byName } canvas canvasWidened
    let under (u : Uid) := byName.entries.filter fun e => e.key = (.functions, u)
    Matching.namePairs canvas.functions canvasWidened.functions =
        [(unary "draw" "int", unary "draw" "long")] ∧
      under ⟨"draw(long)"⟩ = superseding (unary "draw" "int", unary "draw" "long") ∧
      under ⟨"scale(char)"⟩ = [Entity.removal (unary "scale" "char")] ∧
      under ⟨"scale(long)"⟩ = [Entity.addition (unary "scale" "long")] := by
  have hpairs : Matching.namePairs canvas.functions canvasWidened.functions =
      [(unary "draw" "int", unary "draw" "long")] := by decide +kernel
  obtain ⟨-, -, -, -, hpaired, hlost, hgained, -⟩ := compare_byName canvas canvasWidened
  have hscale : ("scale" : String) ≠ "draw" := by decide
  refine ⟨hpairs, (hpaired _ _ (by rw [hpairs]; exact List.mem_singleton_self _)).2,
    hlost (unary "scale" "char") (by decide) (by decide) fun n => ?_,
    hgained (unary "scale" "long") (by decide) (by decide) fun o => ?_⟩
  · rw [hpairs, List.mem_singleton]
    exact fun h => hscale (congrArg (fun p : Function × Function => p.1.name) h)
  · rw [hpairs, List.mem_singleton]
    exact fun h => hscale (congrArg (fun p : Function × Function => p.2.name) h)

end Snapshot

end HeaderAbi
