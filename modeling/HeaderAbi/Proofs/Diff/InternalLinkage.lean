import HeaderAbi.Proofs.Diff.Ignoring

/-!
# Internal linkage

Functions and variables with internal linkage are seen by no other binary.  Two snapshots that
differ in such entities alone have the same contract (`Snapshot.SameContract`).

* An entity of both sides is the same in both or internal in both (`SameContract.eq_or_hidden`), and
  one that comes or goes is internal.
* Neither the loss nor the arrival of an internal entity breaks, and neither does a change of its
  linkage (`harmless_changes_iff`).
* But linkage is not asked for when two versions are compared or when functions are paired by name.
  **What breaks between snapshots with the same contract** is an internal entity whose two versions
  differ in calls or in type, or a pair of internal functions (`breaking_iff_internalBreak`).
-/

namespace HeaderAbi

/-! ### Changes that keep calls and types -/

namespace FunctionChange

theorem harmless_ofDispatch_iff {d d' : Option Dispatch} : Harmless toChange (ofDispatch d d') ↔
    d'.isSome = d.isSome ∧ d'.map (·.vtableIndex) = d.map (·.vtableIndex) := by
  refine ⟨dispatch_of_harmless, fun ⟨hvirtual, hindex⟩ => ?_⟩
  rcases d with _ | d <;> rcases d' with _ | d'
  · exact fun _ hc => absurd hc List.not_mem_nil
  · cases hvirtual
  · cases hvirtual
  · have hsame : d'.vtableIndex = d.vtableIndex := Option.some.inj hindex
    simp only [ofDispatch, when, harmless_append, harmless_if]
    exact ⟨fun hne => absurd hsame.symm hne, fun _ => Impact.noConfusion⟩

end FunctionChange

/-- A change of linkage is breaking only for a symbol that disappears. -/
theorem linkageImpact_ne_breaking {o n : Linkage}
    (h : o.isVisible = true → n.isVisible = true) : linkageImpact o n ≠ .breaking := by
  cases o <;> cases n <;> simp_all [linkageImpact, Linkage.isVisible]

/-- **The changes of a function break nothing exactly when its calls are kept.** -/
theorem Function.harmless_changes_iff {o n : Function} :
    Harmless FunctionChange.toChange (o.changes n) ↔ CallKept o n := by
  refine ⟨callKept_of_harmless, fun h => ?_⟩
  have hdispatch := FunctionChange.harmless_ofDispatch_iff.2 ⟨h.isVirtual, h.vtableIndex⟩
  have hparameters : FunctionChange.ofParameters o.parameters n.parameters = [] := by
    rw [h.parameters, FunctionChange.ofParameters_self]
  have hnone : Harmless FunctionChange.toChange [] := fun _ hc => absurd hc List.not_mem_nil
  simp only [changes, FunctionChange.when, harmless_append, harmless_if, hparameters]
  exact ⟨⟨⟨⟨⟨⟨fun hne => absurd h.result.symm hne, hnone⟩, fun hne => absurd h.variadic.symm hne⟩,
    fun hne => absurd h.convention.symm hne⟩, fun _ => linkageImpact_ne_breaking h.visible⟩,
    hdispatch⟩, fun _ => Impact.noConfusion⟩

/-- **The changes of a variable break nothing exactly when it is kept.** -/
theorem GlobalVar.harmless_changes_iff {o n : GlobalVar} :
    Harmless GlobalChange.toChange (o.changes n) ↔ VariableKept o n := by
  refine ⟨variableKept_of_harmless, fun h => ?_⟩
  simp only [changes, harmless_append, harmless_if]
  exact ⟨fun hne => absurd h.type.symm hne, fun _ => linkageImpact_ne_breaking h.visible⟩

theorem exists_breaking_of_not_harmless {β : Type} {toChange : β → Change} {cs : List β}
    (h : ¬ Harmless toChange cs) : ∃ c ∈ cs, (toChange c).impact = .breaking := by
  simpa [Harmless] using h

/-- A comparison is compatible when no entry of it breaks. -/
theorem Verdict.ofDiff_eq_compatible_iff {d : Diff} :
    ofDiff d = .compatible ↔ ∀ e ∈ d.entries, e.isBreaking ≠ true := by
  have hnone : d.hasBreaking ≠ true ↔ ∀ e ∈ d.entries, e.isBreaking ≠ true := by
    rw [ne_eq, Diff.hasBreaking_iff]
    push Not
    rfl
  rw [← hnone, ofDiff]
  split
  · next hbreaks => exact iff_of_false Verdict.noConfusion (not_not_intro hbreaks)
  · next hbreaks => exact iff_of_true rfl hbreaks

/-! ### The contract -/

/-- Other binaries see the entity.  Records and enumerations are always seen. -/
def Item.isVisible : Item → Bool
  | .function f => f.linkage.isVisible
  | .global g => g.linkage.isVisible
  | _ => true

theorem Item.isBreaking_removal {i : Item} : i.removal.isBreaking = i.isVisible := by
  cases i <;> exact Entity.isBreaking_removal _

namespace Snapshot

/-- Two snapshots differ only in functions and variables with internal linkage.  No enumeration
names an enumerator twice. -/
structure SameContract (old new : Snapshot) : Prop where
  records : old.records.Agrees new.records
  enums : old.enums.Agrees new.enums
  distinct : ∀ e ∈ old.enums.entries, (e.enumerators.map Enumerator.name).Nodup
  functions : ∀ f : Function, f.linkage.isVisible = true →
    (f ∈ old.functions.entries ↔ f ∈ new.functions.entries)
  globals : ∀ g : GlobalVar, g.linkage.isVisible = true →
    (g ∈ old.globals.entries ↔ g ∈ new.globals.entries)

/-- A break on an entity that no other binary sees, under its category and its new identifier. -/
inductive InternalBreak (m : Matching) (old new : Snapshot) : Category × Uid → Prop where
  /-- Two versions of a function are not called alike. -/
  | function {o n : Function} : o ∈ old.functions.entries → n ∈ new.functions.entries →
    n.uid = o.uid → o.linkage.isVisible = false → n.linkage.isVisible = false → ¬ CallKept o n →
    InternalBreak m old new (.functions, n.uid)
  /-- Two versions of a variable differ in type. -/
  | global {o n : GlobalVar} : o ∈ old.globals.entries → n ∈ new.globals.entries →
    n.uid = o.uid → o.linkage.isVisible = false → n.linkage.isVisible = false →
    n.type ≠ o.type → InternalBreak m old new (.globals, n.uid)
  /-- A function was found again by its name. -/
  | pair {o n : Function} : (o, n) ∈ m.pairs old.functions new.functions →
    o.linkage.isVisible = false → n.linkage.isVisible = false →
    InternalBreak m old new (.functions, n.uid)

variable {m : Matching} {old new : Snapshot}

namespace SameContract

/-- Both sides have the same visible entities. -/
theorem mem_items_iff (h : SameContract old new) {i : Item} (hi : i.isVisible = true) :
    i ∈ old.contents.items ↔ i ∈ new.contents.items := by
  cases i with
  | record r =>
    rw [Contents.record_mem_items, Contents.record_mem_items]
    exact h.records.mem_iff
  | enum e =>
    rw [Contents.enum_mem_items, Contents.enum_mem_items]
    exact h.enums.mem_iff
  | function f =>
    rw [Contents.function_mem_items, Contents.function_mem_items]
    exact h.functions f hi
  | global g =>
    rw [Contents.global_mem_items, Contents.global_mem_items]
    exact h.globals g hi

/-- **An entity of both sides** has not changed or is hidden on both. -/
theorem eq_or_hidden (h : SameContract old new) {o n : Item} (ho : o ∈ old.contents.items)
    (hn : n ∈ new.contents.items) (hkey : n.key = o.key) :
    n = o ∨ o.isVisible = false ∧ n.isVisible = false := by
  cases hold : o.isVisible with
  | true => exact .inl (Contents.eq_of_key_eq hn ((h.mem_items_iff hold).1 ho) hkey)
  | false =>
    cases hnew : n.isVisible with
    | true => exact .inl (Contents.eq_of_key_eq ((h.mem_items_iff hnew).2 hn) ho hkey)
    | false => exact .inr ⟨rfl, rfl⟩

/-- An entity that both sides hold alike has no changes. -/
theorem changes_self (h : SameContract old new) {i : Item} (hi : i ∈ old.contents.items) :
    i.changes i = [] := by
  refine (Item.changes_self_eq_nil_iff i).2 fun e he => ?_
  subst he
  exact EnumType.unambiguous_of_nodup (h.distinct e (Contents.enum_mem_items.1 hi))

/-- A function without its like on the other side is hidden. -/
theorem hidden_of_mem_pairs (h : SameContract old new) {o n : Function}
    (hp : (o, n) ∈ m.pairs old.functions new.functions) :
    o.linkage.isVisible = false ∧ n.linkage.isVisible = false := by
  obtain ⟨hlost, hgained⟩ := Matching.mem_without_of_mem_pairs hp
  obtain ⟨ho, hnot⟩ := Table.mem_without.1 hlost
  obtain ⟨hn, hnot'⟩ := Table.mem_without.1 hgained
  constructor
  · exact Bool.eq_false_iff.2 fun hv => hnot o ((h.functions o hv).1 ho) rfl
  · exact Bool.eq_false_iff.2 fun hv => hnot' n ((h.functions n hv).2 hn) rfl

/-- A breaking change between two versions of an entity is an internal break. -/
theorem internalBreak_of_mem_changes (h : SameContract old new) {o n : Item}
    (ho : o ∈ old.contents.items) (hn : n ∈ new.contents.items) (hkey : n.key = o.key) {e : Entry}
    (he : e ∈ o.changes n) (hbreaking : e.isBreaking = true) : InternalBreak m old new n.key := by
  obtain rfl | ⟨hold, hnew⟩ := h.eq_or_hidden ho hn hkey
  · rw [h.changes_self ho] at he
    exact absurd he List.not_mem_nil
  -- from here on both versions are hidden
  have huid : n.key.2 = o.key.2 := congrArg Prod.snd hkey
  cases o <;> cases n <;> simp only [Item.changes, List.not_mem_nil, List.mem_map] at he
  case record.record => cases hold
  case enum.enum => cases hold
  case function.function o n =>
    obtain ⟨c, hc, rfl⟩ := he
    refine .function (Contents.function_mem_items.1 ho) (Contents.function_mem_items.1 hn) huid hold
      hnew fun hkept => ?_
    exact Function.harmless_changes_iff.2 hkept c hc (of_decide_eq_true hbreaking)
  case global.global o n =>
    obtain ⟨c, hc, rfl⟩ := he
    refine .global (Contents.global_mem_items.1 ho) (Contents.global_mem_items.1 hn) huid hold hnew
      fun htype => ?_
    have hkept : VariableKept o n :=
      ⟨htype, fun hv => absurd (hold.symm.trans hv) Bool.false_ne_true⟩
    exact GlobalVar.harmless_changes_iff.2 hkept c hc (of_decide_eq_true hbreaking)

/-- **What breaks is an internal break.** -/
theorem internalBreak_of_found (h : SameContract old new) {e : Entry} (he : Found m old new e)
    (hbreaking : e.isBreaking = true) : InternalBreak m old new e.key := by
  cases he with
  | removed hi hnot _ =>
    -- only the loss of a visible entity breaks, and none of these is lost
    have hvisible := Item.isBreaking_removal.symm.trans hbreaking
    exact absurd ⟨_, (h.mem_items_iff hvisible).1 hi, rfl⟩ hnot
  | @added i _ _ _ =>
    have himpact : i.addition.impact = .nonBreaking := Item.impact_addition
    simp [Entry.isBreaking, himpact] at hbreaking
  | changed ho hn hkey he =>
    rw [Item.key_of_mem_changes he]
    exact h.internalBreak_of_mem_changes ho hn hkey he hbreaking
  | paired hp _ =>
    obtain ⟨hold, hnew⟩ := h.hidden_of_mem_pairs hp
    exact .pair hp hold hnew

end SameContract

/-- **An internal break is found**, and only between snapshots that differ. -/
theorem InternalBreak.exists_found {key : Category × Uid} (h : InternalBreak m old new key) :
    ¬ old.Agrees new ∧ ∃ e, Found m old new e ∧ e.key = key ∧ e.isBreaking = true := by
  cases h with
  | @function o n ho hn huid _ _ hkept =>
    refine ⟨fun hagree => hkept ?_, ?_⟩
    · obtain rfl := Table.eq_of_uid_eq hn (hagree.functions.mem_iff.1 ho) huid
      exact .refl n
    · obtain ⟨c, hc, hbreaking⟩ :=
        exists_breaking_of_not_harmless (mt Function.harmless_changes_iff.1 hkept)
      exact ⟨Entity.entry n c.toChange, .changed (o := .function o) (n := .function n)
        (Contents.function_mem_items.2 ho) (Contents.function_mem_items.2 hn)
        (by rw [Item.key, Item.key, huid]) (List.mem_map_of_mem hc), rfl, decide_eq_true hbreaking⟩
  | @global o n ho hn huid _ _ htype =>
    refine ⟨fun hagree => htype ?_, ?_⟩
    · rw [Table.eq_of_uid_eq hn (hagree.globals.mem_iff.1 ho) huid]
    · have hc : GlobalChange.type o.type n.type ∈ o.changes n := by
        simp [GlobalVar.changes, Ne.symm htype]
      exact ⟨Entity.entry n (GlobalChange.type o.type n.type).toChange,
        .changed (o := .global o) (n := .global n) (Contents.global_mem_items.2 ho)
          (Contents.global_mem_items.2 hn) (by rw [Item.key, Item.key, huid])
          (List.mem_map_of_mem hc), rfl, rfl⟩
  | pair hp _ _ =>
    exact ⟨not_agrees_of_mem_pairs hp, _, found_signatureEntry hp, rfl, rfl⟩

/-- An entry that breaks is one of an internal break that is not ignored. -/
theorem exists_breaking_iff {ignored : Uid → Bool} (h : SameContract old new)
    (key : Category × Uid) :
    (∃ e ∈ (compare m ignored old new).entries, e.key = key ∧ e.isBreaking = true) ↔
      ignored key.2 = false ∧ InternalBreak m old new key := by
  simp only [mem_compare_iff]
  constructor
  · rintro ⟨e, ⟨-, hshown, hfound⟩, rfl, hbreaking⟩
    exact ⟨hshown, h.internalBreak_of_found hfound hbreaking⟩
  · rintro ⟨hshown, hbreak⟩
    obtain ⟨hdiffer, e, hfound, rfl, hbreaking⟩ := hbreak.exists_found
    exact ⟨e, ⟨hdiffer, hshown, hfound⟩, rfl, hbreaking⟩

/-- **What breaks between snapshots with the same contract** are the internal breaks that are not
ignored.  So the verdict is compatible exactly when there are none, such as when internal functions
and variables only come, go or change their linkage. -/
theorem breaking_iff_internalBreak (m : Matching) (ignored : Uid → Bool) {old new : Snapshot}
    (h : SameContract old new) :
    (∀ key, (∃ e ∈ (compare m ignored old new).entries, e.key = key ∧ e.isBreaking = true) ↔
      ignored key.2 = false ∧ InternalBreak m old new key) ∧
    (Verdict.ofDiff (compare m ignored old new) = .compatible ↔
      ∀ key, InternalBreak m old new key → ignored key.2 = true) := by
  refine ⟨exists_breaking_iff h, ?_⟩
  rw [Verdict.ofDiff_eq_compatible_iff]
  constructor
  · intro hnone key hbreak
    by_contra hshown
    obtain ⟨e, he, -, hbreaking⟩ :=
      (exists_breaking_iff h key).2 ⟨Bool.not_eq_true _ ▸ hshown, hbreak⟩
    exact hnone e he hbreaking
  · intro hignored e he hbreaking
    obtain ⟨hshown, hbreak⟩ := (exists_breaking_iff h e.key).1 ⟨e, he, rfl, hbreaking⟩
    exact Bool.false_ne_true (hshown.symm.trans (hignored e.key hbreak))

/-! ### A helper with another result -/

/-- A function that no other binary sees, with an `int` or a `long` as its result. -/
def helper (wide : Bool) : Function where
  uid := ⟨"helper()"⟩
  name := "helper"
  result := .ofName (if wide then "long" else "int")
  linkage := .internal

/-- A snapshot with the function alone. -/
def helping (wide : Bool) : Snapshot where
  contents := { Contents.empty with functions := ⟨[helper wide], List.nodup_singleton _⟩ }
  sound := by cases wide <;> decide

theorem sameContract_helping : SameContract (helping false) (helping true) where
  records := .refl []
  enums := .refl []
  distinct e he := absurd he List.not_mem_nil
  functions f hf := by
    have hnot (wide : Bool) : f ∉ (helping wide).functions.entries := fun hmem => by
      obtain rfl : f = helper wide := List.mem_singleton.1 hmem
      cases hf
    exact iff_of_false (hnot false) (hnot true)
  globals _ _ := iff_of_false List.not_mem_nil List.not_mem_nil

/-- The two versions are not called alike. -/
theorem internalBreak_helping (m : Matching) :
    InternalBreak m (helping false) (helping true) (.functions, ⟨"helper()"⟩) := by
  have hkept : ¬ CallKept (helper false) (helper true) := fun h => absurd h.result (by decide)
  exact .function (o := helper false) (n := helper true) (List.mem_singleton_self _)
    (List.mem_singleton_self _) rfl rfl rfl hkept

theorem breaking_iff_internalBreak_helper :
    SameContract (helping false) (helping true) ∧
      Verdict.ofDiff (compare .byName (fun _ => false) (helping false) (helping true)) ≠
        .compatible := by
  have hsame := sameContract_helping
  refine ⟨hsame, fun hcompatible => ?_⟩
  exact Bool.false_ne_true ((breaking_iff_internalBreak .byName (fun _ => false) hsame).2.1
    hcompatible _ (internalBreak_helping .byName))

/-- Snapshots with the same contract may be incompatible, whichever way functions are matched. -/
theorem exists_internal_break : ∃ old new : Snapshot, SameContract old new ∧
    ∀ m, (compare m (fun _ => false) old new).hasBreaking = true ∧
      Verdict.ofDiff (compare m (fun _ => false) old new) = .incompatible := by
  refine ⟨helping false, helping true, sameContract_helping, fun m => ?_⟩
  obtain ⟨hdiffer, e, hfound, -, hbreaking⟩ := (internalBreak_helping m).exists_found
  have hbreaks : (compare m (fun _ => false) (helping false) (helping true)).hasBreaking = true :=
    hasBreaking_compare_iff.2 ⟨hdiffer, e, rfl, hfound, hbreaking⟩
  exact ⟨hbreaks, if_pos hbreaks⟩

end Snapshot

end HeaderAbi
