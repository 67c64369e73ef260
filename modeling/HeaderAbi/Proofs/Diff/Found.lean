import HeaderAbi.Proofs.Diff.Compare
import HeaderAbi.Proofs.Diff.NamePairs
import HeaderAbi.Proofs.Snapshot.Items

/-!
# Where the entries of a comparison come from

An entry is found for one of four reasons (`Found`): an entity is gone, an entity is new, two
versions of an entity differ, or a function was found again by its name.  The reasons speak of
entities of all categories at once, so that what is said of entries is said once.

* `mem_categoryEntries`: the entries of a category are the ones that are found under it.
* **The entries of a comparison** are those found under identifiers that are not ignored, unless
  the snapshots agree (`mem_compare_iff`).
-/

namespace HeaderAbi

/-- The category and the identifier of the entity that an entry is about. -/
def Entry.key (e : Entry) : Category × Uid := (e.category, e.uid)

namespace Item

/-- The entry for an entity that is gone. -/
def removal : Item → Entry
  | .record r => Entity.removal r
  | .enum e => Entity.removal e
  | .function f => Entity.removal f
  | .global g => Entity.removal g

/-- The entry for an entity that is new. -/
def addition : Item → Entry
  | .record r => Entity.addition r
  | .enum e => Entity.addition e
  | .function f => Entity.addition f
  | .global g => Entity.addition g

/-- The entries for the changes between two versions of an entity. -/
def changes : Item → Item → List Entry
  | .record o, .record n => (o.changes n).map fun c => Entity.entry n c.toChange
  | .enum o, .enum n => (o.changes n).map fun c => Entity.entry n c.toChange
  | .function o, .function n => (o.changes n).map fun c => Entity.entry n c.toChange
  | .global o, .global n => (o.changes n).map fun c => Entity.entry n c.toChange
  | _, _ => []

end Item

/-- The reasons for which an entry is found. -/
inductive Found (m : Matching) (old new : Snapshot) : Entry → Prop where
  /-- An entity is gone and was not found again by name. -/
  | removed {i : Item} : i ∈ old.contents.items → ¬ new.contents.Has i.key →
    (∀ p ∈ m.pairs old.functions new.functions, i ≠ .function p.1) → Found m old new i.removal
  /-- An entity is new and was not found by name either. -/
  | added {i : Item} : i ∈ new.contents.items → ¬ old.contents.Has i.key →
    (∀ p ∈ m.pairs old.functions new.functions, i ≠ .function p.2) → Found m old new i.addition
  /-- Two versions of an entity differ. -/
  | changed {o n : Item} {e : Entry} : o ∈ old.contents.items → n ∈ new.contents.items →
    n.key = o.key → e ∈ o.changes n → Found m old new e
  /-- A function was found again by its name, under another identifier. -/
  | paired {o n : Function} {c : FunctionChange} :
    (o, n) ∈ m.pairs old.functions new.functions → c ∈ .signature o.uid n.uid :: o.changes n →
    Found m old new (Entity.entry n c.toChange)

/-! ### One kind of entity -/

/-- A kind of entity as a kind of item. -/
class Listed (α : Type) extends Stored α where
  item : α → Item
  key_item (a : α) : (item a).key = (Entity.category α, Entity.uid a)
  removal_item (a : α) : (item a).removal = Entity.removal a
  addition_item (a : α) : (item a).addition = Entity.addition a
  mem_items_iff (c : Contents) (i : Item) : i ∈ c.items ∧ i.key.1 = Entity.category α ↔
    ∃ a ∈ (Stored.table c : Table α).entries, item a = i

instance : Listed Record where
  item := .record
  key_item _ := rfl
  removal_item _ := rfl
  addition_item _ := rfl
  mem_items_iff c i := by cases i <;> simp [Item.key, Entity.category, Stored.table]

instance : Listed EnumType where
  item := .enum
  key_item _ := rfl
  removal_item _ := rfl
  addition_item _ := rfl
  mem_items_iff c i := by cases i <;> simp [Item.key, Entity.category, Stored.table]

instance : Listed Function where
  item := .function
  key_item _ := rfl
  removal_item _ := rfl
  addition_item _ := rfl
  mem_items_iff c i := by cases i <;> simp [Item.key, Entity.category, Stored.table]

instance : Listed GlobalVar where
  item := .global
  key_item _ := rfl
  removal_item _ := rfl
  addition_item _ := rfl
  mem_items_iff c i := by cases i <;> simp [Item.key, Entity.category, Stored.table]

namespace Listed

variable {α : Type} [Listed α] {c d : Contents} {a b : α}

theorem item_mem_items (h : a ∈ (Stored.table c : Table α).entries) : item a ∈ c.items :=
  ((mem_items_iff (α := α) c _).2 ⟨a, h, rfl⟩).1

theorem exists_item {i : Item} (h : i ∈ c.items) (hi : i.key.1 = Entity.category α) :
    ∃ a ∈ (Stored.table c : Table α).entries, item a = i :=
  (mem_items_iff c i).1 ⟨h, hi⟩

theorem has_iff {u : Uid} : c.Has (Entity.category α, u) ↔
    ∃ a ∈ (Stored.table c : Table α).entries, Entity.uid a = u := by
  constructor
  · rintro ⟨i, hi, hkey⟩
    obtain ⟨a, ha, rfl⟩ := exists_item (α := α) hi (by rw [hkey])
    rw [key_item] at hkey
    exact ⟨a, ha, congrArg Prod.snd hkey⟩
  · rintro ⟨a, ha, rfl⟩
    exact ⟨item a, item_mem_items ha, key_item a⟩

/-- Among all entities one is found as it is in its table. -/
theorem item?_eq (c : Contents) (u : Uid) :
    c.item? (Entity.category α, u) = ((Stored.table c : Table α).get? u).map item := by
  refine Option.ext fun i => ?_
  rw [Contents.item?_eq_some_iff, Option.map_eq_some_iff]
  simp only [Table.get?_eq_some_iff]
  constructor
  · rintro ⟨hi, hkey⟩
    obtain ⟨a, ha, rfl⟩ := exists_item (α := α) hi (congrArg Prod.fst hkey)
    rw [key_item] at hkey
    exact ⟨a, ⟨ha, congrArg Prod.snd hkey⟩, rfl⟩
  · rintro ⟨a, ⟨ha, rfl⟩, rfl⟩
    exact ⟨item_mem_items ha, key_item a⟩

theorem mem_without_iff : a ∈ (Stored.table c : Table α).without (Stored.table d) ↔
    a ∈ (Stored.table c : Table α).entries ∧ ¬ d.Has (item a).key := by
  rw [Table.mem_without, key_item, has_iff]
  simp only [not_exists, not_and, ne_eq]

end Listed

/-! ### The entity that an entry is about -/

theorem Entity.key_removal {α : Type} [Entity α] (a : α) :
    (Entity.removal a).key = (Entity.category α, Entity.uid a) := by
  rw [Entity.removal]
  split <;> rfl

theorem Entity.key_addition {α : Type} [Entity α] (a : α) :
    (Entity.addition a).key = (Entity.category α, Entity.uid a) := rfl

namespace Item

variable {i o n : Item} {e : Entry}

theorem key_removal : i.removal.key = i.key := by
  cases i <;> exact Entity.key_removal _

theorem key_addition : i.addition.key = i.key := by
  cases i <;> rfl

@[simp]
theorem category_removal : i.removal.category = i.key.1 := congrArg Prod.fst key_removal

@[simp]
theorem uid_removal : i.removal.uid = i.key.2 := congrArg Prod.snd key_removal

@[simp]
theorem category_addition : i.addition.category = i.key.1 := congrArg Prod.fst key_addition

@[simp]
theorem uid_addition : i.addition.uid = i.key.2 := congrArg Prod.snd key_addition

theorem key_of_mem_changes (h : e ∈ o.changes n) : e.key = n.key := by
  cases o <;> cases n <;> simp only [changes, List.not_mem_nil, List.mem_map] at h <;>
    obtain ⟨c, -, rfl⟩ := h <;> rfl

theorem kind_removal : i.removal.kind = .removed := by
  have hremoval : ∀ {α : Type} [Entity α] (a : α), (Entity.removal a).kind = .removed := by
    intro α _ a
    rw [Entity.removal]
    split <;> rfl
  cases i <;> exact hremoval _

theorem kind_addition : i.addition.kind = .added := by
  cases i <;> rfl

theorem impact_addition : i.addition.impact = .nonBreaking := by
  cases i <;> rfl

theorem isEntityLevel_removal : i.removal.isEntityLevel = true := by
  have hremoval : ∀ {α : Type} [Entity α] (a : α), (Entity.removal a).isEntityLevel = true := by
    intro α _ a
    rw [Entity.removal]
    split <;> rfl
  cases i <;> exact hremoval _

theorem isEntityLevel_addition : i.addition.isEntityLevel = true := by
  cases i <;> rfl

end Item

/-! ### The entries of a category -/

theorem Matching.mem_without_of_mem_pairs {m : Matching} {old new : Table Function}
    {p : Function × Function} (h : p ∈ m.pairs old new) :
    p.1 ∈ old.without new ∧ p.2 ∈ new.without old := by
  cases m with
  | byUid => cases h
  | byName =>
    obtain ⟨-, ho, hn⟩ := mem_namePairs.1 h
    exact ⟨ho.1, hn.1⟩

namespace Snapshot

variable {m : Matching} {old new : Snapshot} {e : Entry}

section OneKind
variable {α : Type} [Listed α]

/-- **What is gone and what is new** in one category. -/
theorem mem_presence_items : e ∈ (old.table : Table α).presence new.table ↔
    e.category = Entity.category α ∧
      ((∃ i ∈ old.contents.items, ¬ new.contents.Has i.key ∧ i.removal = e) ∨
        ∃ i ∈ new.contents.items, ¬ old.contents.Has i.key ∧ i.addition = e) := by
  rw [Table.mem_presence]
  constructor
  · rintro (⟨a, ha, rfl⟩ | ⟨a, ha, rfl⟩) <;> obtain ⟨ha, hnot⟩ := Listed.mem_without_iff.1 ha
    · exact ⟨congrArg Prod.fst (Entity.key_removal a),
        .inl ⟨_, Listed.item_mem_items ha, hnot, Listed.removal_item a⟩⟩
    · exact ⟨rfl, .inr ⟨_, Listed.item_mem_items ha, hnot, Listed.addition_item a⟩⟩
  · rintro ⟨hcategory, ⟨i, hi, hnot, rfl⟩ | ⟨i, hi, hnot, rfl⟩⟩
    · obtain ⟨a, ha, rfl⟩ := Listed.exists_item (α := α) hi
        (Item.category_removal ▸ hcategory)
      exact .inl ⟨a, Listed.mem_without_iff.2 ⟨ha, hnot⟩, (Listed.removal_item a).symm⟩
    · obtain ⟨a, ha, rfl⟩ := Listed.exists_item (α := α) hi
        (Item.category_addition ▸ hcategory)
      exact .inr ⟨a, Listed.mem_without_iff.2 ⟨ha, hnot⟩, (Listed.addition_item a).symm⟩

/-- **What has changed** in one category. -/
theorem mem_shared_items {β : Type} {changes : α → α → List β} {toChange : β → Change}
    (hchanges : ∀ o n : α, (Listed.item o).changes (Listed.item n) =
      (changes o n).map fun c => Entity.entry n (toChange c)) :
    (e ∈ ((old.table : Table α).shared new.table).flatMap fun (o, n) =>
      (changes o n).map fun c => Entity.entry n (toChange c)) ↔
    e.category = Entity.category α ∧ ∃ o ∈ old.contents.items, ∃ n ∈ new.contents.items,
      n.key = o.key ∧ e ∈ o.changes n := by
  simp only [List.mem_flatMap, ← hchanges]
  constructor
  · rintro ⟨⟨o, n⟩, hmem, he⟩
    obtain ⟨ho, hn, hu⟩ := Table.mem_shared.1 hmem
    refine ⟨?_, _, Listed.item_mem_items ho, _, Listed.item_mem_items hn, ?_, he⟩
    · exact congrArg Prod.fst ((Item.key_of_mem_changes he).trans (Listed.key_item n))
    · rw [Listed.key_item, Listed.key_item, hu]
  · rintro ⟨hcategory, o, ho, n, hn, hkey, he⟩
    have hentry : e.category = n.key.1 := congrArg Prod.fst (Item.key_of_mem_changes he)
    obtain ⟨b, hb, rfl⟩ := Listed.exists_item (α := α) hn (hentry.symm.trans hcategory)
    obtain ⟨a, ha, rfl⟩ := Listed.exists_item (α := α) ho (by rw [← hkey, Listed.key_item])
    rw [Listed.key_item, Listed.key_item] at hkey
    exact ⟨(a, b), Table.mem_shared.2 ⟨ha, hb, congrArg Prod.snd hkey⟩, he⟩

end OneKind

/-- What is found of a category other than that of the functions, which alone are paired. -/
theorem found_iff (h : e.category ≠ .functions) : Found m old new e ↔
    ((∃ i ∈ old.contents.items, ¬ new.contents.Has i.key ∧ i.removal = e) ∨
      ∃ i ∈ new.contents.items, ¬ old.contents.Has i.key ∧ i.addition = e) ∨
    ∃ o ∈ old.contents.items, ∃ n ∈ new.contents.items, n.key = o.key ∧ e ∈ o.changes n := by
  constructor
  · rintro (⟨hi, hnot, -⟩ | ⟨hi, hnot, -⟩ | ⟨ho, hn, hkey, he⟩ | _)
    · exact .inl (.inl ⟨_, hi, hnot, rfl⟩)
    · exact .inl (.inr ⟨_, hi, hnot, rfl⟩)
    · exact .inr ⟨_, ho, _, hn, hkey, he⟩
    · exact absurd rfl h
  · rintro ((⟨i, hi, hnot, rfl⟩ | ⟨i, hi, hnot, rfl⟩) | ⟨o, ho, n, hn, hkey, he⟩)
    · refine .removed hi hnot ?_
      rintro p - rfl
      exact h (congrArg Prod.fst Item.key_removal)
    · refine .added hi hnot ?_
      rintro p - rfl
      exact h rfl
    · exact .changed ho hn hkey he

/-- The entries of a category whose entities are not paired by name. -/
theorem mem_kind_iff {α β : Type} [Listed α] {changes : α → α → List β} {toChange : β → Change}
    (hα : Entity.category α ≠ .functions)
    (hchanges : ∀ o n : α, (Listed.item o).changes (Listed.item n) =
      (changes o n).map fun c => Entity.entry n (toChange c)) :
    (e ∈ (old.table : Table α).presence new.table ++ (old.table.shared new.table).flatMap
      fun (o, n) => (changes o n).map fun c => Entity.entry n (toChange c)) ↔
    Found m old new e ∧ e.category = Entity.category α := by
  rw [List.mem_append, mem_presence_items, mem_shared_items hchanges, ← and_or_left, and_comm,
    and_congr_left_iff]
  intro hcategory
  exact (found_iff (hcategory ▸ hα)).symm

/-- An entity is none of the paired functions exactly when its identifier is none of theirs. -/
theorem unpaired_iff {i : Item} {c : Contents} (hi : i ∈ c.items) (hcategory : i.key.1 = .functions)
    {pairs : List (Function × Function)} {side : Function × Function → Function}
    (hside : ∀ p ∈ pairs, side p ∈ c.functions.entries) :
    (!pairs.any fun p => (side p).uid == i.key.2) = true ↔ ∀ p ∈ pairs, i ≠ .function (side p) := by
  simp only [Bool.not_eq_true', List.any_eq_false, beq_iff_eq]
  refine forall₂_congr fun p hp => not_congr ⟨fun h => ?_, fun h => ?_⟩
  · exact Contents.eq_of_key_eq hi (Contents.function_mem_items.2 (hside p hp))
      (Prod.ext hcategory h.symm)
  · rw [h]
    rfl

/-- Functions that are gone or new count only when they are not paired. -/
theorem mem_functionPresence : e ∈ functionPresence m old new ↔ e.category = .functions ∧
    ((∃ i ∈ old.contents.items, ¬ new.contents.Has i.key ∧
        (∀ p ∈ m.pairs old.functions new.functions, i ≠ .function p.1) ∧ i.removal = e) ∨
      ∃ i ∈ new.contents.items, ¬ old.contents.Has i.key ∧
        (∀ p ∈ m.pairs old.functions new.functions, i ≠ .function p.2) ∧ i.addition = e) := by
  have hpresence : e ∈ old.functions.presence new.functions ↔ _ := mem_presence_items
  rw [functionPresence, List.mem_filter]
  set pairs := m.pairs old.functions new.functions
  have hold : ∀ {i : Item}, i ∈ old.contents.items → i.removal.category = .functions →
      ((!pairs.any fun p => p.1.uid == i.key.2) = true ↔ ∀ p ∈ pairs, i ≠ .function p.1) :=
    fun hi hcategory => unpaired_iff hi (Item.category_removal ▸ hcategory) fun _ hp =>
      (Table.mem_without.1 (Matching.mem_without_of_mem_pairs hp).1).1
  have hnew : ∀ {i : Item}, i ∈ new.contents.items → i.addition.category = .functions →
      ((!pairs.any fun p => p.2.uid == i.key.2) = true ↔ ∀ p ∈ pairs, i ≠ .function p.2) :=
    fun hi hcategory => unpaired_iff hi (Item.category_addition ▸ hcategory) fun _ hp =>
      (Table.mem_without.1 (Matching.mem_without_of_mem_pairs hp).2).1
  constructor
  · rintro ⟨h, hfilter⟩
    obtain ⟨hcategory, ⟨i, hi, hnot, rfl⟩ | ⟨i, hi, hnot, rfl⟩⟩ := hpresence.1 h
    · rw [Item.kind_removal, Item.uid_removal] at hfilter
      exact ⟨hcategory, .inl ⟨i, hi, hnot, (hold hi hcategory).1 hfilter, rfl⟩⟩
    · rw [Item.kind_addition, Item.uid_addition] at hfilter
      exact ⟨hcategory, .inr ⟨i, hi, hnot, (hnew hi hcategory).1 hfilter, rfl⟩⟩
  · rintro ⟨hcategory, ⟨i, hi, hnot, halone, rfl⟩ | ⟨i, hi, hnot, halone, rfl⟩⟩
    · refine ⟨hpresence.2 ⟨hcategory, .inl ⟨i, hi, hnot, rfl⟩⟩, ?_⟩
      rw [Item.kind_removal, Item.uid_removal]
      exact (hold hi hcategory).2 halone
    · refine ⟨hpresence.2 ⟨hcategory, .inr ⟨i, hi, hnot, rfl⟩⟩, ?_⟩
      rw [Item.kind_addition, Item.uid_addition]
      exact (hnew hi hcategory).2 halone

theorem mem_functionEntries :
    e ∈ functionEntries m old new ↔ Found m old new e ∧ e.category = .functions := by
  have hshared := @mem_shared_items old new e Function _ _ Function.changes
    FunctionChange.toChange fun _ _ => rfl
  rw [functionEntries, List.mem_append, List.mem_append, mem_functionPresence]
  constructor
  · rintro ((⟨hcategory, ⟨i, hi, hnot, hpairs, rfl⟩ | ⟨i, hi, hnot, hpairs, rfl⟩⟩ | h) | h)
    · exact ⟨.removed hi hnot hpairs, hcategory⟩
    · exact ⟨.added hi hnot hpairs, hcategory⟩
    · obtain ⟨hcategory, o, ho, n, hn, hkey, he⟩ := hshared.1 h
      exact ⟨.changed ho hn hkey he, hcategory⟩
    · obtain ⟨p, hp, he⟩ := List.mem_flatMap.1 h
      obtain ⟨c, hc, rfl⟩ := List.mem_map.1 he
      exact ⟨.paired hp hc, rfl⟩
  · rintro ⟨⟨hi, hnot, hpairs⟩ | ⟨hi, hnot, hpairs⟩ | ⟨ho, hn, hkey, he⟩ | ⟨hp, hc⟩, hcategory⟩
    · exact .inl (.inl ⟨hcategory, .inl ⟨_, hi, hnot, hpairs, rfl⟩⟩)
    · exact .inl (.inl ⟨hcategory, .inr ⟨_, hi, hnot, hpairs, rfl⟩⟩)
    · exact .inl (.inr (hshared.2 ⟨hcategory, _, ho, _, hn, hkey, he⟩))
    · exact .inr (List.mem_flatMap.2 ⟨_, hp, List.mem_map_of_mem hc⟩)

/-- **The entries of a category** are the ones that are found under it. -/
theorem mem_categoryEntries {c : Category} :
    e ∈ categoryEntries m old new c ↔ Found m old new e ∧ e.category = c := by
  cases c with
  | records => exact mem_kind_iff (α := Record) (by decide) fun _ _ => rfl
  | enums => exact mem_kind_iff (α := EnumType) (by decide) fun _ _ => rfl
  | functions => exact mem_functionEntries
  | globals => exact mem_kind_iff (α := GlobalVar) (by decide) fun _ _ => rfl

/-- What is found of an entity that both sides have, or neither, are the changes between its two
versions. -/
theorem found_under_iff {key : Category × Uid}
    (h : old.contents.Has key ↔ new.contents.Has key) :
    Found m old new e ∧ e.key = key ↔ ∃ o ∈ old.contents.items, ∃ n ∈ new.contents.items,
      o.key = key ∧ n.key = key ∧ e ∈ o.changes n := by
  constructor
  · rintro ⟨⟨hi, hnot, -⟩ | ⟨hi, hnot, -⟩ | ⟨ho, hn, hkey, he⟩ | ⟨hp, -⟩, hentry⟩
    · have hikey := Item.key_removal.symm.trans hentry
      exact absurd (h.1 ⟨_, hi, hikey⟩) (hikey ▸ hnot)
    · have hikey := Item.key_addition.symm.trans hentry
      exact absurd (h.2 ⟨_, hi, hikey⟩) (hikey ▸ hnot)
    · have hnkey := (Item.key_of_mem_changes he).symm.trans hentry
      exact ⟨_, ho, _, hn, hkey.symm.trans hnkey, hnkey, he⟩
    · -- a function that is paired by name is new under its identifier
      obtain ⟨hn, hnot⟩ := Listed.mem_without_iff.1 (Matching.mem_without_of_mem_pairs hp).2
      have hnkey := (Listed.key_item _).trans hentry
      exact absurd (h.2 ⟨_, Listed.item_mem_items hn, hnkey⟩) (hnkey ▸ hnot)
  · rintro ⟨o, ho, n, hn, hokey, hnkey, he⟩
    exact ⟨.changed ho hn (hnkey.trans hokey.symm) he, (Item.key_of_mem_changes he).trans hnkey⟩

/-- What is found of an entity that both sides have are the changes between its two versions. -/
theorem found_common_iff {o n : Item} (ho : o ∈ old.contents.items) (hn : n ∈ new.contents.items)
    (h : o.key = n.key) : Found m old new e ∧ e.key = n.key ↔ e ∈ o.changes n := by
  rw [found_under_iff (iff_of_true ⟨o, ho, h⟩ ⟨n, hn, rfl⟩)]
  constructor
  · rintro ⟨o', ho', n', hn', hokey, hnkey, he⟩
    obtain rfl := Contents.eq_of_key_eq ho' ho (hokey.trans h.symm)
    obtain rfl := Contents.eq_of_key_eq hn' hn hnkey
    exact he
  · intro he
    exact ⟨o, ho, n, hn, h, rfl, he⟩

/-- **The entries of a comparison** are those found under identifiers that are not ignored. -/
theorem mem_compare_iff {ignored : Uid → Bool} : e ∈ (compare m ignored old new).entries ↔
    ¬ old.Agrees new ∧ ignored e.uid = false ∧ Found m old new e := by
  by_cases hagree : old.Agrees new
  · simp [compare_of_agrees hagree, hagree]
  · rw [mem_compare hagree]
    simp [mem_categoryEntries, hagree, and_comm]

end Snapshot

end HeaderAbi
