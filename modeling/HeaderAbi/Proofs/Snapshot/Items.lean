import HeaderAbi.Proofs.Snapshot.Building

/-!
# Entities of all categories

The four tables of contents as one list of entities (`Contents.items`), each found under its
category and identifier (`item?_eq_some_iff`), so that what holds of every category alike is said
and proved once.

Contents are closed when everything that their entities refer to is there.  Being closed is what the
check asks for besides sound layouts (`closed_iff`), and an entity that finds what it refers to goes
on to find it among more entities (`Admits.mono`).
-/

namespace HeaderAbi

deriving instance DecidableEq for Item

namespace Item

/-- The category and the identifier of an entity, under which contents hold one at most. -/
def key : Item → Category × Uid
  | .record r => (.records, r.uid)
  | .enum e => (.enums, e.uid)
  | .function f => (.functions, f.uid)
  | .global g => (.globals, g.uid)

/-- True for records that are declared only; entities of the other categories are complete. -/
def isOpaque : Item → Bool
  | .record r => r.isOpaque
  | _ => false

/-- The uses of types that must resolve. -/
def references : Item → List TypeRef
  | .record r => Entity.references r
  | .enum e => Entity.references e
  | .function f => Entity.references f
  | .global g => Entity.references g

/-- The identifiers that must be those of records: the bases of a complete record and the parent of
a function. -/
def owners : Item → List Uid
  | .record r => if r.isOpaque then [] else r.bases.map Base.uid
  | .function f => f.parent.toList
  | _ => []

/-- Only records are declared ahead. -/
theorem category_of_isOpaque {i : Item} (h : i.isOpaque = true) : i.key.1 = .records := by
  cases i with
  | record r => rfl
  | _ => cases h

theorem exists_record_of_category {i : Item} (h : i.key.1 = .records) : ∃ r, i = .record r := by
  cases i with
  | record r => exact ⟨r, rfl⟩
  | _ => cases h

end Item

namespace Contents

/-- All entities, category after category. -/
def items (c : Contents) : List Item :=
  c.records.entries.map .record ++ c.enums.entries.map .enum ++
    c.functions.entries.map .function ++ c.globals.entries.map .global

/-- The entity of that category and identifier. -/
def item? (c : Contents) : Category × Uid → Option Item
  | (.records, u) => (c.records.get? u).map .record
  | (.enums, u) => (c.enums.get? u).map .enum
  | (.functions, u) => (c.functions.get? u).map .function
  | (.globals, u) => (c.globals.get? u).map .global

section Membership
variable {c : Contents}

@[simp] theorem record_mem_items {r : Record} : .record r ∈ c.items ↔ r ∈ c.records.entries := by
  simp [items]

@[simp] theorem enum_mem_items {e : EnumType} : .enum e ∈ c.items ↔ e ∈ c.enums.entries := by
  simp [items]

@[simp] theorem function_mem_items {f : Function} :
    .function f ∈ c.items ↔ f ∈ c.functions.entries := by
  simp [items]

@[simp] theorem global_mem_items {g : GlobalVar} : .global g ∈ c.items ↔ g ∈ c.globals.entries := by
  simp [items]

/-- What holds of all entities holds of those of each category. -/
theorem forall_mem_items {p : Item → Prop} :
    (∀ i ∈ c.items, p i) ↔ (∀ r ∈ c.records.entries, p (.record r)) ∧
      (∀ e ∈ c.enums.entries, p (.enum e)) ∧ (∀ f ∈ c.functions.entries, p (.function f)) ∧
        ∀ g ∈ c.globals.entries, p (.global g) := by
  simp only [items, List.forall_mem_append, List.forall_mem_map, and_assoc]

/-- **An entity is found under its category and identifier**, and nothing else is. -/
theorem item?_eq_some_iff {key : Category × Uid} {i : Item} :
    c.item? key = some i ↔ i ∈ c.items ∧ i.key = key := by
  obtain ⟨category, u⟩ := key
  cases category <;> cases i <;>
    simp [item?, Item.key, Table.get?_eq_some_iff] <;> exact fun _ => Iff.rfl

theorem mem_items_iff {i : Item} : i ∈ c.items ↔ c.item? i.key = some i := by
  rw [item?_eq_some_iff, and_iff_left rfl]

theorem eq_of_key_eq {i j : Item} (hi : i ∈ c.items) (hj : j ∈ c.items) (h : i.key = j.key) :
    i = j := by
  have hfound : c.item? j.key = some i := item?_eq_some_iff.2 ⟨hi, h⟩
  exact Option.some.inj (hfound.symm.trans (mem_items_iff.1 hj))

end Membership

/-- **Contents agree when they hold the same entities.** -/
theorem agrees_iff_mem_items {c d : Contents} :
    c.Agrees d ↔ ∀ i, i ∈ c.items ↔ i ∈ d.items := by
  constructor
  · intro h i
    cases i with
    | record r => rw [record_mem_items, record_mem_items, h.records.mem_iff]
    | enum e => rw [enum_mem_items, enum_mem_items, h.enums.mem_iff]
    | function f => rw [function_mem_items, function_mem_items, h.functions.mem_iff]
    | global g => rw [global_mem_items, global_mem_items, h.globals.mem_iff]
  · intro h
    constructor
    case records => exact Table.agrees_of_mem_iff fun r => by simpa using h (.record r)
    case enums => exact Table.agrees_of_mem_iff fun e => by simpa using h (.enum e)
    case functions => exact Table.agrees_of_mem_iff fun f => by simpa using h (.function f)
    case globals => exact Table.agrees_of_mem_iff fun g => by simpa using h (.global g)

/-- There is an entity of that category and identifier. -/
def Has (c : Contents) (key : Category × Uid) : Prop := ∃ i ∈ c.items, i.key = key

instance (c : Contents) (key : Category × Uid) : Decidable (c.Has key) :=
  inferInstanceAs (Decidable (∃ i ∈ c.items, i.key = key))

theorem has_iff_isSome {c : Contents} {key : Category × Uid} :
    c.Has key ↔ (c.item? key).isSome = true := by
  rw [Option.isSome_iff_exists]
  simp only [item?_eq_some_iff]
  exact Iff.rfl

theorem not_agrees_of_mem {c d : Contents} {i : Item} (hc : i ∈ c.items) (hd : i ∉ d.items) :
    ¬ c.Agrees d :=
  fun h => hd ((agrees_iff_mem_items.1 h i).1 hc)

/-- Contents agree when the same is found under every identifier. -/
theorem agrees_of_item?_eq {c d : Contents} (h : ∀ key, c.item? key = d.item? key) :
    c.Agrees d := by
  rw [agrees_iff_mem_items]
  intro i
  rw [mem_items_iff, mem_items_iff, h]

/-- **In contents that agree** the same is found under every identifier. -/
theorem Agrees.item?_eq {c d : Contents} (h : c.Agrees d) (key : Category × Uid) :
    c.item? key = d.item? key := by
  refine Option.ext fun i => ?_
  rw [item?_eq_some_iff, item?_eq_some_iff, agrees_iff_mem_items.1 h]

/-- Entities under the same identifiers agree when those of the one are among those of the other. -/
theorem agrees_of_subset {c d : Contents} (hsub : ∀ i ∈ c.items, i ∈ d.items)
    (hhas : ∀ key, d.Has key → c.Has key) : c.Agrees d := by
  rw [agrees_iff_mem_items]
  intro i
  constructor
  · exact hsub i
  · intro hi
    obtain ⟨j, hj, hkey⟩ := hhas i.key ⟨i, hi, rfl⟩
    have hsame : j = i := eq_of_key_eq (hsub j hj) hi hkey
    rw [← hsame]
    exact hj

section Has
variable {c : Contents} {u : Uid}

theorem has_records_iff : c.Has (.records, u) ↔ ∃ r ∈ c.records.entries, r.uid = u := by
  simp [Has, items, Item.key, or_and_right, exists_or]

theorem has_enums_iff : c.Has (.enums, u) ↔ ∃ e ∈ c.enums.entries, e.uid = u := by
  simp [Has, items, Item.key, or_and_right, exists_or]

theorem has_functions_iff : c.Has (.functions, u) ↔ ∃ f ∈ c.functions.entries, f.uid = u := by
  simp [Has, items, Item.key, or_and_right, exists_or]

theorem knows_iff_has : c.Knows u ↔ c.Has (.records, u) ∨ c.Has (.enums, u) ∨
    c.Has (.functions, u) ∨ Builtin.isBuiltin u.text = true := by
  rw [Knows, has_records_iff, has_enums_iff, has_functions_iff]

end Has

/-! ### References -/

/-- An entity finds what it refers to. -/
structure Admits (c : Contents) (i : Item) : Prop where
  references : ∀ t ∈ i.references, c.Resolved t
  owners : ∀ u ∈ i.owners, c.Has (.records, u)

/-- **What finds its references among some entities** finds them among more. -/
theorem Admits.mono {c d : Contents} {i : Item} (h : c.Admits i)
    (hmore : ∀ key, c.Has key → d.Has key) : d.Admits i where
  references t ht s hs := by
    refine (h.references t ht s hs).imp_right fun hknown => ?_
    rw [knows_iff_has] at hknown ⊢
    exact hknown.imp (hmore _) (Or.imp (hmore _) (Or.imp_left (hmore _)))
  owners u hu := hmore _ (h.owners u hu)

/-- A forward declaration refers to nothing. -/
theorem admits_of_isOpaque {c : Contents} {i : Item} (h : i.isOpaque = true) : c.Admits i := by
  obtain ⟨r, rfl⟩ := Item.exists_record_of_category (Item.category_of_isOpaque h)
  have ho : r.isOpaque = true := h
  constructor
  case references =>
    intro t ht
    simp [Item.references, Entity.references, ho] at ht
  case owners =>
    intro u hu
    simp [Item.owners, ho] at hu

/-- Every entity finds what it refers to. -/
def Closed (c : Contents) : Prop := ∀ i ∈ c.items, c.Admits i

/-- **Contents are closed exactly when the check finds at most faults of layout.** -/
theorem closed_iff {c : Contents} : c.Closed ↔ c.faults = c.allLayoutFaults := by
  simp only [faults, List.append_left_eq_self, List.append_eq_nil_iff, referenceFaults_eq_nil_iff,
    baseReferenceFaults_eq_nil_iff, parentFaults_eq_nil_iff, ← has_records_iff]
  simp only [Closed, forall_mem_items]
  constructor
  · rintro ⟨hr, he, hf, hg⟩
    refine ⟨⟨⟨⟨⟨fun r hm => (hr r hm).references, fun e hm => (he e hm).references⟩,
      fun f hm => (hf f hm).references⟩, fun g hm => (hg g hm).references⟩, fun r hm ho b hb => ?_⟩,
      fun f hm p hp => ?_⟩
    · exact (hr r hm).owners _ (by simpa [Item.owners, ho] using ⟨b, hb, rfl⟩)
    · exact (hf f hm).owners p (by simp [Item.owners, hp])
  · rintro ⟨⟨⟨⟨⟨hr, he⟩, hf⟩, hg⟩, hbases⟩, hparents⟩
    refine ⟨fun r hm => ⟨hr r hm, fun u hu => ?_⟩, fun e hm => ⟨he e hm, by simp [Item.owners]⟩,
      fun f hm => ⟨hf f hm, fun u hu => ?_⟩, fun g hm => ⟨hg g hm, by simp [Item.owners]⟩⟩
    · cases ho : r.isOpaque
      · obtain ⟨b, hb, rfl⟩ : ∃ b ∈ r.bases, b.uid = u := by simpa [Item.owners, ho] using hu
        exact hbases r hm ho b hb
      · simp [Item.owners, ho] at hu
    · exact hparents f hm u (by simpa [Item.owners] using hu)

/-- What is reported is a fault that the check finds. -/
theorem mem_faults_of_ofContents {c : Contents} {fault : Fault}
    (h : Snapshot.ofContents c = .error fault) : fault ∈ c.faults := by
  rw [Snapshot.ofContents] at h
  split at h
  · cases h
  · next hc =>
    cases h
    rw [hc]
    exact List.mem_cons_self

theorem exists_layout_of_mem {c : Contents} {fault : Fault} (h : fault ∈ c.allLayoutFaults) :
    ∃ uid reason, fault = .layout uid reason := by
  obtain ⟨r, -, hr⟩ := List.mem_flatMap.1 h
  split at hr
  · cases hr
  · obtain ⟨l, -, rfl⟩ := List.mem_map.1 hr
    exact ⟨_, _, rfl⟩

/-- **What is wrong with closed contents is a layout.** -/
theorem Closed.exists_layout {c : Contents} (h : c.Closed) {fault : Fault}
    (hfault : Snapshot.ofContents c = .error fault) : ∃ uid reason, fault = .layout uid reason := by
  have hmem := mem_faults_of_ofContents hfault
  rw [closed_iff.1 h] at hmem
  exact exists_layout_of_mem hmem

end Contents

/-- The entities of a snapshot find what they refer to. -/
theorem Snapshot.closed (s : Snapshot) : s.contents.Closed := by
  have hsound := s.sound
  rw [Contents.faults, List.append_eq_nil_iff] at hsound
  rw [Contents.closed_iff, Contents.faults, hsound.1, List.nil_append]

end HeaderAbi
