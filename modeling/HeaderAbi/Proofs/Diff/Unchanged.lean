import HeaderAbi.Proofs.Diff.FieldPairing
import HeaderAbi.Proofs.Diff.Found

/-!
# Unchanged entities

What a comparison says of an entity that both snapshots hold alike.

* A list of fields is paired with itself place by place, whatever names and offsets repeat
  (`ofFields_self`), so a record has no changes to itself (`Record.changes_self`); neither has a
  function or a variable.
* An enumerator is compared with the first one of its name.  So an enumeration has no changes to
  itself exactly when no name of it stands for two numbers (`EnumType.changes_self_eq_nil_iff`).
* **An unchanged entity is reported** only if it is an enumeration one of whose names stands for two
  numbers, and then in every comparison of snapshots that differ elsewhere
  (`unchanged_reported_iff`).
-/

namespace HeaderAbi

/-! ### Fields -/

namespace FieldPairing

/-- In a list paired with itself every item takes itself. -/
theorem pairFirst_self {α : Type} {suits : α → α → Bool} (h : ∀ a, suits a a = true)
    (as : List α) : pairFirst suits as as = (as.map fun a => (a, a), [], []) := by
  induction as with
  | nil => rfl
  | cons a as ih => simp [pairFirst, takeFirst, h a, ih]

theorem ofGroup_self (group : List Placed) :
    ofGroup group group = { matched := group.map fun p => (p, p) } := by
  simp [ofGroup, pairFirst_self]

/-- **Fields are paired with themselves**, also those of one name or at one offset. -/
theorem ofFields_self (fields : List Field) :
    (∀ q ∈ (ofFields fields fields).matched, q.2 = q.1) ∧
      (ofFields fields fields).removed = [] ∧ (ofFields fields fields).added = [] := by
  simp only [ofFields, ofGroup_self]
  refine ⟨fun q hq => ?_, by simp [List.eq_nil_iff_forall_not_mem],
    by simp [List.eq_nil_iff_forall_not_mem]⟩
  simp only [List.mem_mergeSort, List.mem_flatMap, List.mem_map] at hq
  obtain ⟨_, ⟨name, -, rfl⟩, hq⟩ := hq
  obtain ⟨p, -, rfl⟩ := List.mem_map.1 hq
  rfl

end FieldPairing

/-! ### Entities compared with themselves -/

theorem RecordChange.ofFieldLists_self (fields : List Field) : ofFieldLists fields fields = [] := by
  obtain ⟨hmatched, hremoved, hadded⟩ := FieldPairing.ofFields_self fields
  simp only [ofFieldLists, FieldPairing.renamings, hremoved, hadded, FieldPairing.pairFirst,
    List.map_nil, List.append_nil, List.flatMap_eq_nil_iff]
  intro q hq
  simp [hmatched q hq, ofFields, when]

theorem Record.changes_self (r : Record) : r.changes r = [] := by
  cases h : r.isOpaque <;>
    simp [changes, layoutChanges, RecordChange.when, RecordChange.ofFieldLists_self, h]

theorem FunctionChange.ofParameters_self (ts : List TypeRef) : ofParameters ts ts = [] := by
  have hzip : ts.zip ts = ts.map fun t => (t, t) := by
    rw [List.zip_eq_zipWith, List.zipWith_self]
  simp only [ofParameters, if_true, List.flatMap_eq_nil_iff]
  rintro ⟨q, i⟩ hq
  obtain ⟨t, -, rfl⟩ := List.mem_map.1 (hzip ▸ List.fst_mem_of_mem_zipIdx hq)
  simp [when]

theorem FunctionChange.ofDispatch_self (d : Option Dispatch) : ofDispatch d d = [] := by
  cases d <;> simp [ofDispatch, when]

theorem Function.changes_self (f : Function) : f.changes f = [] := by
  simp [changes, FunctionChange.when, FunctionChange.ofParameters_self,
    FunctionChange.ofDispatch_self]

theorem GlobalVar.changes_self (g : GlobalVar) : g.changes g = [] := by
  simp [changes]

namespace EnumType

/-- No name of an enumerator stands for two numbers. -/
def Unambiguous (e : EnumType) : Prop :=
  ∀ a ∈ e.enumerators, ∀ b ∈ e.enumerators, a.name = b.name → a.value.toInt = b.value.toInt

theorem unambiguous_of_nodup {e : EnumType} (h : (e.enumerators.map Enumerator.name).Nodup) :
    e.Unambiguous := fun _ ha _ hb hname => by
  rw [List.inj_on_of_nodup_map h ha hb hname]

/-- The first enumerator of a name stands for all of that name. -/
theorem unambiguous_iff {e : EnumType} : e.Unambiguous ↔
    ∀ a ∈ e.enumerators, ∀ b, e.enumerator? a.name = some b → b.value.toInt = a.value.toInt := by
  constructor
  · intro h a ha b hb
    exact h b (List.mem_of_find?_eq_some hb) a ha (by simpa using List.find?_some hb)
  · intro h a ha b hb hname
    obtain ⟨c, hc⟩ : ∃ c, e.enumerator? a.name = some c :=
      Option.isSome_iff_exists.1 (List.find?_isSome.2 ⟨a, ha, by simp⟩)
    exact (h a ha c hc).symm.trans (h b hb c (hname ▸ hc))

/-- **An enumeration has no changes to itself** exactly when it is unambiguous. -/
theorem changes_self_eq_nil_iff (e : EnumType) : e.changes e = [] ↔ e.Unambiguous := by
  have hfound : ∀ a ∈ e.enumerators, ∃ b, e.enumerator? a.name = some b := fun a ha =>
    Option.isSome_iff_exists.1 (List.find?_isSome.2 ⟨a, ha, by simp⟩)
  have hadded : (e.enumerators.filter fun a => (e.enumerator? a.name).isNone) = [] := by
    refine List.filter_eq_nil_iff.2 fun a ha => ?_
    obtain ⟨b, hb⟩ := hfound a ha
    simp [hb]
  simp only [changes, hadded, ne_eq, not_true_eq_false, if_false, List.nil_append, List.map_nil,
    List.append_nil, List.flatMap_eq_nil_iff, unambiguous_iff]
  refine forall₂_congr fun a ha => ?_
  obtain ⟨b, hb⟩ := hfound a ha
  simp [enumeratorChanges, hb]

end EnumType

/-- **An entity has no changes to itself**, an ambiguous enumeration excepted. -/
theorem Item.changes_self_eq_nil_iff (i : Item) :
    i.changes i = [] ↔ ∀ e, i = .enum e → e.Unambiguous := by
  cases i with
  | record r => simp [changes, r.changes_self]
  | enum e => simp [changes, e.changes_self_eq_nil_iff]
  | function f => simp [changes, f.changes_self]
  | global g => simp [changes, g.changes_self]

/-! ### Comparisons -/

namespace Snapshot

variable {m : Matching} {old new : Snapshot} {key : Category × Uid}

/-- What is found of an unchanged entity are its changes to itself. -/
theorem found_unchanged_iff (h : old.contents.item? key = new.contents.item? key) {e : Entry} :
    Found m old new e ∧ e.key = key ↔ ∃ i, old.contents.item? key = some i ∧ e ∈ i.changes i := by
  have hhas : old.contents.Has key ↔ new.contents.Has key := by
    rw [Contents.has_iff_isSome, Contents.has_iff_isSome, h]
  rw [found_under_iff hhas]
  constructor
  · rintro ⟨o, ho, n, hn, hokey, hnkey, he⟩
    have hold := Contents.item?_eq_some_iff.2 ⟨ho, hokey⟩
    have hnew := Contents.item?_eq_some_iff.2 ⟨hn, hnkey⟩
    obtain rfl : o = n := Option.some.inj (hold.symm.trans (h.trans hnew))
    exact ⟨o, hold, he⟩
  · rintro ⟨i, hi, he⟩
    obtain ⟨hold, hkey⟩ := Contents.item?_eq_some_iff.1 hi
    obtain ⟨hnew, -⟩ := Contents.item?_eq_some_iff.1 (h ▸ hi)
    exact ⟨i, hold, i, hnew, hkey, hkey, he⟩

/-- Something is found of an unchanged entity exactly when it is an ambiguous enumeration. -/
theorem exists_found_unchanged_iff (h : old.contents.item? key = new.contents.item? key) :
    (∃ e, Found m old new e ∧ e.key = key) ↔
      ∃ x, old.contents.item? key = some (.enum x) ∧ ¬ x.Unambiguous := by
  simp only [found_unchanged_iff h]
  constructor
  · rintro ⟨e, i, hi, he⟩
    have hne : i.changes i ≠ [] := List.ne_nil_of_mem he
    simp only [ne_eq, Item.changes_self_eq_nil_iff, not_forall] at hne
    obtain ⟨x, rfl, hx⟩ := hne
    exact ⟨x, hi, hx⟩
  · rintro ⟨x, hi, hx⟩
    have hne : (Item.enum x).changes (.enum x) ≠ [] := fun hnil =>
      hx ((Item.changes_self_eq_nil_iff _).1 hnil x rfl)
    obtain ⟨e, he⟩ := List.exists_mem_of_ne_nil _ hne
    exact ⟨e, _, hi, he⟩

/-- Of a snapshot compared with itself, agreement set aside, only ambiguous enumerations show. -/
theorem categoryEntries_self_eq_nil_iff (s : Snapshot) (c : Category) :
    categoryEntries m s s c = [] ↔ (c = .enums → ∀ x ∈ s.enums.entries, x.Unambiguous) := by
  have hunchanged : ∀ {key}, (∃ e, Found m s s e ∧ e.key = key) ↔
      ∃ x, s.contents.item? key = some (.enum x) ∧ ¬ x.Unambiguous :=
    exists_found_unchanged_iff rfl
  rw [List.eq_nil_iff_forall_not_mem]
  constructor
  · rintro h rfl x hx
    by_contra hambiguous
    obtain ⟨e, he, hkey⟩ := hunchanged.2 ⟨x, Contents.item?_eq_some_iff.2
      ⟨Contents.enum_mem_items.2 hx, rfl⟩, hambiguous⟩
    exact h e (mem_categoryEntries.2 ⟨he, congrArg Prod.fst hkey⟩)
  · intro h e hmem
    obtain ⟨he, hcategory⟩ := mem_categoryEntries.1 hmem
    obtain ⟨x, hx, hambiguous⟩ := hunchanged.1 ⟨e, he, rfl⟩
    obtain ⟨hx, hkey⟩ := Contents.item?_eq_some_iff.1 hx
    exact hambiguous (h (hcategory.symm.trans (congrArg Prod.fst hkey).symm) x
      (Contents.enum_mem_items.1 hx))

/-- **An unchanged entity is reported** exactly when the snapshots differ elsewhere and it is an
enumeration, not ignored, one of whose names stands for two numbers.  Without the test for agreement
the categories of a snapshot compared with itself are empty but for such enumerations. -/
theorem unchanged_reported_iff (m : Matching) (ignored : Uid → Bool) (old new : Snapshot) :
    (∀ key, old.contents.item? key = new.contents.item? key →
      ((∃ e ∈ (compare m ignored old new).entries, e.key = key) ↔
        ¬ old.Agrees new ∧ ignored key.2 = false ∧
          ∃ x, old.contents.item? key = some (.enum x) ∧ ¬ x.Unambiguous)) ∧
      ∀ c, categoryEntries m old old c = [] ↔
        (c = .enums → ∀ x ∈ old.enums.entries, x.Unambiguous) := by
  refine ⟨fun key h => ?_, categoryEntries_self_eq_nil_iff old⟩
  rw [← exists_found_unchanged_iff (m := m) h]
  simp only [mem_compare_iff]
  constructor
  · rintro ⟨e, ⟨hdiffer, hshown, he⟩, rfl⟩
    exact ⟨hdiffer, hshown, e, he, rfl⟩
  · rintro ⟨hdiffer, hshown, e, he, rfl⟩
    exact ⟨e, ⟨hdiffer, hshown, he⟩, rfl⟩

end Snapshot

/-! ### One name for two numbers -/

/-- An enumeration whose only name stands for two numbers. -/
def doubled : EnumType where
  uid := ⟨"Flag"⟩
  name := "Flag"
  underlying := .ofName "int"
  enumerators := [⟨"on", .signed 1⟩, ⟨"on", .signed 2⟩]

/-- The enumeration by itself. -/
def flags : Snapshot where
  contents := { Contents.empty with enums := ⟨[doubled], List.nodup_singleton _⟩ }
  sound := by decide

/-- The enumeration together with a variable. -/
def flagsGrown : Snapshot where
  contents := {
    records := .empty
    enums := ⟨[doubled], List.nodup_singleton _⟩
    functions := .empty
    globals := ⟨[{ uid := ⟨"state"⟩, name := "state", type := .ofName "int" }],
      List.nodup_singleton _⟩ }
  sound := by decide

theorem not_unambiguous_doubled : ¬ doubled.Unambiguous := fun h =>
  absurd (h ⟨"on", .signed 1⟩ (by decide) ⟨"on", .signed 2⟩ (by decide) rfl) (by decide)

theorem not_agrees_flagsGrown : ¬ flags.Agrees flagsGrown := fun h =>
  absurd h.globals.length_eq (by decide)

namespace Snapshot

theorem unchanged_reported_flags :
    flags.contents.item? (.enums, ⟨"Flag"⟩) = flagsGrown.contents.item? (.enums, ⟨"Flag"⟩) ∧
      ∃ e ∈ (compare .byName (fun _ => false) flags flagsGrown).entries,
        e.key = (.enums, ⟨"Flag"⟩) := by
  have hsame : flags.contents.item? (.enums, ⟨"Flag"⟩) =
      flagsGrown.contents.item? (.enums, ⟨"Flag"⟩) := rfl
  refine ⟨hsame, ((unchanged_reported_iff .byName _ flags flagsGrown).1 _ hsame).2 ?_⟩
  exact ⟨not_agrees_flagsGrown, rfl, doubled, rfl, not_unambiguous_doubled⟩

/-- An entity that both snapshots hold alike may be reported, and as breaking. -/
theorem exists_unchanged_reported : ∃ (old new : Snapshot) (key : Category × Uid) (i : Item),
    old.contents.item? key = some i ∧ new.contents.item? key = some i ∧
      ∃ e ∈ (compare .byUid (fun _ => false) old new).entries,
        e.key = key ∧ e.isBreaking = true := by
  refine ⟨flags, flagsGrown, (.enums, ⟨"Flag"⟩), .enum doubled, rfl, rfl, ?_⟩
  have hfound : Found .byUid flags flagsGrown (Entity.entry doubled
      (EnumChange.enumeratorValue ⟨"on", .signed 2⟩ ⟨"on", .signed 1⟩).toChange) :=
    .changed (o := .enum doubled) (n := .enum doubled) (by decide) (by decide) rfl (by decide)
  exact ⟨_, mem_compare_iff.2 ⟨not_agrees_flagsGrown, rfl, hfound⟩, rfl, rfl⟩

end Snapshot

end HeaderAbi
