import HeaderAbi.Proofs.Diff.Found
import HeaderAbi.Proofs.Diff.Soundness

/-!
# What came and what went

With functions matched by identifier and nothing ignored, a report says of every category and
identifier whether an entity came or went, once and with the right impact, and says it of nothing
else (`Snapshot.compare_presence`).

* Under one identifier a table has one entity (`Table.filter_uid_eq`), so there is one entry for it
  among those for entities that only one of two tables has (`Listed.perm_presence`).
* The entries for changes of shared entities are never about a whole entity that came or went
  (`Item.isPresence_of_mem_changes`).
* A report sorts the entries of all categories and keeps each of them
  (`Snapshot.perm_entries_compare`, `Snapshot.pairwise_compare`).
-/

namespace HeaderAbi

/-! ### Entries for entities that came or went -/

/-- The entry is for an entity that came or went as a whole. -/
def Entry.isPresence (e : Entry) : Bool :=
  e.isEntityLevel && (e.kind = .added ∨ e.kind = .removed)

/-- What an entry says, apart from its wording. -/
def Entry.gist (e : Entry) : ChangeKind × Impact := (e.kind, e.impact)

/-- The impact of the loss of an entity: functions and variables with internal linkage are missed by
no other binary. -/
def Item.lossImpact : Item → Impact
  | .function f => if f.linkage = .internal then .informational else .breaking
  | .global g => if g.linkage = .internal then .informational else .breaking
  | _ => .breaking

/-- What a report says of an entity that came or went, given its two versions. -/
def presenceGist : Option Item → Option Item → List (ChangeKind × Impact)
  | some i, none => [(.removed, i.lossImpact)]
  | none, some _ => [(.added, .nonBreaking)]
  | _, _ => []

theorem presenceGist_self (i : Option Item) : presenceGist i i = [] := by
  cases i <;> rfl

/-- There is one way at most to order what a report says. -/
theorem eq_presenceGist_of_perm {l : List (ChangeKind × Impact)} {o n : Option Item}
    (h : l.Perm (presenceGist o n)) : l = presenceGist o n := by
  cases o <;> cases n
  case none.none => exact List.perm_nil.1 h
  case some.some => exact List.perm_nil.1 h
  all_goals exact List.perm_singleton.1 h

/-- What some entries say of an entity that came or went. -/
def presences (es : List Entry) (key : Category × Uid) : List (ChangeKind × Impact) :=
  (es.filter fun e => e.isPresence && e.key = key).map Entry.gist

section Presences
variable {es fs : List Entry} {key : Category × Uid}

theorem presences_append : presences (es ++ fs) key = presences es key ++ presences fs key := by
  simp [presences]

theorem presences_perm (h : es.Perm fs) : (presences es key).Perm (presences fs key) :=
  (h.filter _).map _

theorem presences_eq_nil (h : ∀ e ∈ es, e.isPresence = true → e.key ≠ key) :
    presences es key = [] := by
  rw [presences, List.map_eq_nil_iff, List.filter_eq_nil_iff]
  intro e he
  rw [Bool.and_eq_true, decide_eq_true_eq, not_and]
  exact h e he

theorem presences_flatMap {γ : Type} (xs : List γ) (f : γ → List Entry) :
    presences (xs.flatMap f) key = xs.flatMap fun x => presences (f x) key := by
  rw [presences, List.filter_flatMap, List.map_flatMap]
  rfl

end Presences

namespace Item

variable {i : Item}

theorem isPresence_removal : i.removal.isPresence = true := by
  rw [Entry.isPresence, isEntityLevel_removal, kind_removal]
  rfl

theorem isPresence_addition : i.addition.isPresence = true := by
  rw [Entry.isPresence, isEntityLevel_addition, kind_addition]
  rfl

/-- **The impact of a loss** is that of the entity. -/
theorem gist_removal : i.removal.gist = (.removed, i.lossImpact) := by
  cases i with
  | record r => rfl
  | enum e => rfl
  | function f => cases h : f.linkage <;>
      simp [removal, Entity.removal, Entity.isVisible, Entity.linkage?, Entity.entry,
        Linkage.isVisible, Entry.gist, Entry.kind, Entry.impact, lossImpact, h]
  | global g => cases h : g.linkage <;>
      simp [removal, Entity.removal, Entity.isVisible, Entity.linkage?, Entity.entry,
        Linkage.isVisible, Entry.gist, Entry.kind, Entry.impact, lossImpact, h]

theorem gist_addition : i.addition.gist = (.added, .nonBreaking) := by
  rw [Entry.gist, kind_addition, impact_addition]

/-- A change of a shared entity is none of presence. -/
theorem isPresence_of_mem_changes {o n : Item} {e : Entry} (h : e ∈ o.changes n) :
    e.isPresence = false := by
  cases o <;> cases n <;> simp only [changes, List.not_mem_nil, List.mem_map] at h <;>
    obtain ⟨c, -, rfl⟩ := h <;> cases c <;> rfl

end Item

/-! ### One kind of entity -/

namespace Listed

variable {α : Type} [Listed α]

theorem isPresence_removal (a : α) : (Entity.removal a).isPresence = true := by
  rw [← removal_item, Item.isPresence_removal]

theorem isPresence_addition (a : α) : (Entity.addition a).isPresence = true := by
  rw [← addition_item, Item.isPresence_addition]

theorem gist_removal (a : α) : (Entity.removal a).gist = (.removed, (item a).lossImpact) := by
  rw [← removal_item, Item.gist_removal]

theorem gist_addition (a : α) : (Entity.addition a).gist = (.added, .nonBreaking) := by
  rw [← addition_item, Item.gist_addition]

/-- **Among the entities that only one of two tables has** there is one entry for each. -/
theorem perm_presence (old new : Snapshot) (u : Uid) :
    (presences ((old.table : Table α).presence new.table) (Entity.category α, u)).Perm
      (presenceGist (old.contents.item? (Entity.category α, u))
        (new.contents.item? (Entity.category α, u))) := by
  have hlost : presences (((old.table : Table α).without new.table).map Entity.removal)
      (Entity.category α, u) =
        (((old.table : Table α).without new.table).filter fun a => Entity.uid a = u).map
          fun a => (.removed, (item a).lossImpact) := by
    simp only [presences, List.filter_map, List.map_map, Function.comp_def, isPresence_removal,
      Entity.key_removal, Prod.mk.injEq, true_and, Bool.true_and, gist_removal]
  have hgained : presences (((new.table : Table α).without old.table).map Entity.addition)
      (Entity.category α, u) =
        (((new.table : Table α).without old.table).filter fun a => Entity.uid a = u).map
          fun _ => (.added, .nonBreaking) := by
    simp only [presences, List.filter_map, List.map_map, Function.comp_def, isPresence_addition,
      Entity.key_addition, Prod.mk.injEq, true_and, Bool.true_and, gist_addition]
  refine (presences_perm (List.mergeSort_perm _ _)).trans (.of_eq ?_)
  rw [presences_append, hlost, hgained, Table.filter_without, Table.filter_without,
    Table.contains_eq_isSome, Table.contains_eq_isSome, item?_eq, item?_eq]
  change _ = presenceGist ((old.table.get? u).map item) ((new.table.get? u).map item)
  cases (old.table : Table α).get? u <;> cases (new.table : Table α).get? u <;> rfl

/-- The entries of one kind of entity. -/
theorem perm_kind {β : Type} {changes : α → α → List β} {toChange : β → Change}
    (hchanges : ∀ o n : α, (item o).changes (item n) =
      (changes o n).map fun c => Entity.entry n (toChange c)) (old new : Snapshot) (u : Uid) :
    (presences ((old.table : Table α).presence new.table ++ (old.table.shared new.table).flatMap
        fun (o, n) => (changes o n).map fun c => Entity.entry n (toChange c))
      (Entity.category α, u)).Perm
      (presenceGist (old.contents.item? (Entity.category α, u))
        (new.contents.item? (Entity.category α, u))) := by
  rw [presences_append]
  have hshared : presences ((old.table.shared new.table).flatMap fun (o, n) =>
      (changes o n).map fun c => Entity.entry n (toChange c)) (Entity.category α, u) = [] := by
    refine presences_eq_nil fun e he hpresent => ?_
    obtain ⟨-, o, -, n, -, -, he⟩ := (Snapshot.mem_shared_items hchanges).1 he
    rw [Item.isPresence_of_mem_changes he] at hpresent
    cases hpresent
  rw [hshared, List.append_nil]
  exact perm_presence old new u

end Listed

/-! ### Reports -/

theorem Category.rank_injective : Function.Injective Category.rank := by
  intro a b h
  cases a <;> cases b <;> first | rfl | cases h

theorem Category.flatMap_all {β : Type} {f : Category → List β} {k : Category}
    (h : ∀ c ≠ k, f c = []) : all.flatMap f = f k := by
  cases k <;> simp [all, h]

namespace Snapshot

variable {old new : Snapshot}

/-- The entries of a category, functions being matched by identifier. -/
theorem perm_categoryEntries (key : Category × Uid) :
    (presences (categoryEntries .byUid old new key.1) key).Perm
      (presenceGist (old.contents.item? key) (new.contents.item? key)) := by
  obtain ⟨category, u⟩ := key
  cases category with
  | records => exact Listed.perm_kind (α := Record) (fun _ _ => rfl) old new u
  | enums => exact Listed.perm_kind (α := EnumType) (fun _ _ => rfl) old new u
  | functions =>
    rw [categoryEntries, functionEntries, functionPresence_of_pairs_eq_nil rfl]
    simp only [Matching.pairs, List.flatMap_nil, List.append_nil]
    exact Listed.perm_kind (α := Function) (fun _ _ => rfl) old new u
  | globals => exact Listed.perm_kind (α := GlobalVar) (fun _ _ => rfl) old new u

/-- Without patterns nothing is ignored, so the entries of all categories are there. -/
theorem perm_entries_compare (h : ¬ old.Agrees new) : (({} : Engine).compare old new).entries.Perm
    (Category.all.flatMap (categoryEntries .byUid old new)) := by
  have hkept : (({} : Engine).compare old new).entries =
      ((Category.all.flatMap (categoryEntries .byUid old new)).mergeSort Entry.le).filter
        fun _ => true := entries_compare h
  rw [hkept, List.filter_true]
  exact List.mergeSort_perm _ _

/-- **Of each entity that came or went** a report says so once, and it says so of no other. -/
theorem presences_compare (old new : Snapshot) (key : Category × Uid) :
    presences (({} : Engine).compare old new).entries key =
      presenceGist (old.contents.item? key) (new.contents.item? key) := by
  by_cases hagree : old.Agrees new
  · have hnone : (({} : Engine).compare old new).entries = [] := compare_of_agrees hagree
    rw [hnone, Contents.Agrees.item?_eq hagree, presenceGist_self]
    rfl
  · refine eq_presenceGist_of_perm ((presences_perm (perm_entries_compare hagree)).trans ?_)
    rw [presences_flatMap, Category.flatMap_all (k := key.1)]
    · exact perm_categoryEntries key
    · intro c hc
      refine presences_eq_nil fun e he _ hkey => hc ?_
      have hcategory : e.category = c := (mem_categoryEntries.1 he).2
      exact hcategory.symm.trans (congrArg Prod.fst hkey)

/-- An entry that is none of presence is about an entity of both sides. -/
theorem has_of_not_isPresence {e : Entry} (he : e ∈ (({} : Engine).compare old new).entries)
    (h : e.isPresence = false) : old.contents.Has e.key ∧ new.contents.Has e.key := by
  obtain ⟨-, -, hfound⟩ := mem_compare_iff.1 he
  cases hfound with
  | removed _ _ _ =>
    rw [Item.isPresence_removal] at h
    cases h
  | added _ _ _ =>
    rw [Item.isPresence_addition] at h
    cases h
  | @changed o n e ho hn hkey hmem =>
    have hentry : e.key = n.key := Item.key_of_mem_changes hmem
    exact ⟨⟨o, ho, hkey.symm.trans hentry.symm⟩, ⟨n, hn, hentry.symm⟩⟩
  | paired hp _ => cases hp

theorem pairwise_compare (old new : Snapshot) :
    (({} : Engine).compare old new).entries.Pairwise fun a b => a.le b = true := by
  by_cases hagree : old.Agrees new
  · have hnone : (({} : Engine).compare old new).entries = [] := compare_of_agrees hagree
    rw [hnone]
    exact .nil
  · rw [Engine.compare, entries_compare hagree]
    exact (List.pairwise_mergeSort Entry.le_trans Entry.le_total _).filter _

/-- **A report on a library that is all new** lists each entity once, as added. -/
theorem compare_empty (new : Snapshot) (key : Category × Uid) :
    ((({} : Engine).compare .empty new).entries.filter fun e => e.key = key).map
        (fun e => (e.isEntityLevel, e.kind, e.impact)) =
      if new.contents.Has key then [(true, .added, .nonBreaking)] else [] := by
  have hempty : ∀ k, ¬ Snapshot.empty.contents.Has k := by
    rintro k ⟨i, hi, -⟩
    exact List.not_mem_nil hi
  have hall : ∀ e ∈ (({} : Engine).compare .empty new).entries, e.isPresence = true := by
    intro e he
    rw [← Bool.not_eq_false]
    intro h
    obtain ⟨hold, -⟩ := has_of_not_isPresence he h
    exact hempty e.key hold
  have hfilter : (({} : Engine).compare .empty new).entries.filter (fun e => e.key = key) =
      (({} : Engine).compare .empty new).entries.filter fun e => e.isPresence && e.key = key :=
    List.filter_congr fun e he => by rw [hall e he, Bool.true_and]
  have hgist : ∀ e ∈ (({} : Engine).compare .empty new).entries.filter (fun e => e.key = key),
      (e.isEntityLevel, e.kind, e.impact) = (true, e.gist) := by
    intro e he
    have hpresent : e.isPresence = true := hall e (List.mem_of_mem_filter he)
    rw [(Bool.and_eq_true_iff.1 hpresent).1, Entry.gist]
  have hnone : Snapshot.empty.contents.item? key = none := by
    rw [← Option.not_isSome_iff_eq_none, ← Contents.has_iff_isSome]
    exact hempty key
  rw [List.map_congr_left hgist, hfilter, ← Function.comp_def (Prod.mk true), ← List.map_map]
  change (presences _ key).map _ = _
  rw [presences_compare, hnone]
  simp only [Contents.has_iff_isSome]
  cases new.contents.item? key <;> rfl

/-- **Reports are exact about what came and what went.**  With functions matched by identifier and
nothing ignored, a report says of each category and identifier whether an entity came or went, once,
and every other entry is about an entity of both sides.  Entries are in the order of categories and
identifiers.  So a report on a library that is all new lists each of its entities once as added, and
nothing else. -/
theorem compare_presence (old new : Snapshot) :
    (∀ key, presences (({} : Engine).compare old new).entries key =
      presenceGist (old.contents.item? key) (new.contents.item? key)) ∧
    (∀ e ∈ (({} : Engine).compare old new).entries, e.isPresence = false →
      old.contents.Has e.key ∧ new.contents.Has e.key) ∧
    ((({} : Engine).compare old new).entries.Pairwise fun a b =>
      a.category.rank < b.category.rank ∨
        a.category = b.category ∧ a.uid.text ≤ b.uid.text) ∧
    ∀ key, ((({} : Engine).compare .empty new).entries.filter fun e => e.key = key).map
        (fun e => (e.isEntityLevel, e.kind, e.impact)) =
      if new.contents.Has key then [(true, .added, .nonBreaking)] else [] := by
  refine ⟨presences_compare old new, fun e => has_of_not_isPresence, ?_, compare_empty new⟩
  refine (pairwise_compare old new).imp fun {a b} hle => (Entry.le_iff.1 hle).imp_right ?_
  rintro ⟨hrank, huid⟩
  exact ⟨Category.rank_injective hrank, of_decide_eq_true huid⟩

end Snapshot

end HeaderAbi
