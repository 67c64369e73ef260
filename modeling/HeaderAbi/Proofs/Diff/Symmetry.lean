import HeaderAbi.Proofs.Diff.Compare
import HeaderAbi.Proofs.Diff.Leftover
import HeaderAbi.Proofs.Diff.NamePairs
import Mathlib.Data.Prod.Basic

/-!
# Comparing the other way round

**What is removed from `old` to `new` is added from `new` to `old`**, entities and members alike
(`compare_removed_perm_added`): the two lists of places are permutations of each other, whichever
way functions are matched and whatever is ignored.

* A place is a category, an identifier and possibly a member; `places` lists those of one kind.
* For one entity, the members are the fields and enumerators without partner
  (`Record.partsOf_changes_swap`, `EnumType.partsOf_changes_swap`).
* For two tables, the shared entities are the same from both sides (`Table.shared_swap`).
-/

namespace HeaderAbi

/-! ### Members -/

theorem ChangeKind.removed_ne_changed : removed ≠ changed := nofun

theorem ChangeKind.added_ne_changed : added ≠ changed := nofun

/-- The members that the changes of one kind concern. -/
def partsOf {β : Type} (toChange : β → Change) (kind : ChangeKind) (cs : List β) :
    List (Option String) :=
  cs.filterMap fun c => if (toChange c).kind = kind then some (toChange c).part else none

section PartsOf
variable {β γ : Type} {toChange : β → Change} {kind : ChangeKind} {cs ds : List β}

@[simp]
theorem partsOf_append :
    partsOf toChange kind (cs ++ ds) = partsOf toChange kind cs ++ partsOf toChange kind ds :=
  List.filterMap_append

theorem partsOf_eq_nil (h : ∀ c ∈ cs, (toChange c).kind ≠ kind) : partsOf toChange kind cs = [] :=
  List.filterMap_eq_nil_iff.2 fun c hc => if_neg (h c hc)

theorem partsOf_map (f : γ → β) (h : ∀ x, (toChange (f x)).kind = kind) (xs : List γ) :
    partsOf toChange kind (xs.map f) = xs.map fun x => (toChange (f x)).part := by
  simp [partsOf, List.filterMap_map, h]

theorem partsOf_map_eq_nil (f : γ → β) (h : ∀ x, (toChange (f x)).kind ≠ kind) (xs : List γ) :
    partsOf toChange kind (xs.map f) = [] := by
  simp [partsOf, h]

end PartsOf

namespace RecordChange

theorem kind_when {p : Prop} [Decidable p] {change c : RecordChange}
    (hchange : change.toChange.kind = .changed) (hc : c ∈ when p change) :
    c.toChange.kind = .changed := by
  rw [when, List.mem_ite_nil_right, List.mem_singleton] at hc
  exact hc.2 ▸ hchange

/-- A pair of fields is changed, neither removed nor added. -/
theorem kind_ofFields {o n : Field} {c : RecordChange} (hc : c ∈ ofFields o n) :
    c.toChange.kind = .changed := by
  simp only [ofFields, List.mem_append] at hc
  rcases hc with ((hc | hc) | hc) | hc <;> exact kind_when rfl hc

theorem partsOf_matched {kind : ChangeKind} (hk : kind ≠ .changed)
    (pairs : List (Placed × Placed)) :
    partsOf toChange kind (pairs.flatMap fun (o, n) => ofFields o.field n.field) = [] := by
  refine partsOf_eq_nil fun c hc => ?_
  obtain ⟨_, -, hc⟩ := List.mem_flatMap.1 hc
  rw [kind_ofFields hc]
  exact Ne.symm hk

/-- Only fields without partner are removed or added. -/
theorem partsOf_ofFieldLists {kind : ChangeKind} (hk : kind ≠ .changed) (old new : List Field) :
    let unpaired := (FieldPairing.ofFields old new).renamings.2
    partsOf toChange kind (ofFieldLists old new) =
      partsOf toChange kind (unpaired.1.map fun p => fieldRemoved p.field) ++
        partsOf toChange kind (unpaired.2.map fun p => fieldAdded p.field) := by
  simp only [ofFieldLists, partsOf_append]
  rw [partsOf_matched hk,
    partsOf_map_eq_nil (fun q : Placed × Placed => fieldRenamed q.1.field q.2.field)
      fun _ => Ne.symm hk]
  rfl

theorem partsOf_ofFieldLists_swap (old new : List Field) :
    partsOf toChange .removed (ofFieldLists old new) =
      partsOf toChange .added (ofFieldLists new old) := by
  rw [partsOf_ofFieldLists ChangeKind.removed_ne_changed,
    partsOf_ofFieldLists ChangeKind.added_ne_changed,
    partsOf_map (fun p : Placed => fieldRemoved p.field) fun _ => rfl,
    partsOf_map_eq_nil (fun p : Placed => fieldAdded p.field) (by simp [toChange]),
    partsOf_map_eq_nil (fun p : Placed => fieldRemoved p.field) (by simp [toChange]),
    partsOf_map (fun p : Placed => fieldAdded p.field) fun _ => rfl,
    List.append_nil, FieldPairing.renamings_removed_swap]
  rfl

theorem partsOf_when {kind : ChangeKind} (hk : kind ≠ .changed) {p : Prop} [Decidable p]
    {change : RecordChange} (hchange : change.toChange.kind = .changed) :
    partsOf toChange kind (when p change) = [] :=
  partsOf_eq_nil fun _ hc => kind_when hchange hc ▸ Ne.symm hk

end RecordChange

theorem Record.partsOf_layoutChanges {kind : ChangeKind} (hk : kind ≠ .changed) (old new : Record) :
    partsOf RecordChange.toChange kind (old.layoutChanges new) =
      partsOf RecordChange.toChange kind (RecordChange.ofFieldLists old.fields new.fields) := by
  simp only [layoutChanges, partsOf_append]
  rw [RecordChange.partsOf_when hk rfl, RecordChange.partsOf_when hk rfl,
    RecordChange.partsOf_when hk rfl, RecordChange.partsOf_when hk rfl,
    RecordChange.partsOf_when hk rfl]
  exact List.append_nil _

/-- **The fields that a record loses are those that it gains the other way round.** -/
theorem Record.partsOf_changes_swap (old new : Record) :
    partsOf RecordChange.toChange .removed (old.changes new) =
      partsOf RecordChange.toChange .added (new.changes old) := by
  simp only [changes, partsOf_append]
  rw [RecordChange.partsOf_when (by decide) rfl, RecordChange.partsOf_when (by decide) rfl]
  cases ho : old.isOpaque <;> cases hn : new.isOpaque
  · rw [partsOf_layoutChanges ChangeKind.removed_ne_changed,
      partsOf_layoutChanges ChangeKind.added_ne_changed, RecordChange.partsOf_ofFieldLists_swap]
  · rfl
  · rfl
  · rfl

namespace EnumType

/-- The enumerators of one enumeration whose names another one lacks. -/
def namesLacking (e other : EnumType) : List (Option String) :=
  (e.enumerators.filter fun a => (other.enumerator? a.name).isNone).map fun a => some a.name

theorem partsOf_enumeratorChanges (new : EnumType) (es : List Enumerator) :
    partsOf EnumChange.toChange .removed (es.flatMap new.enumeratorChanges) =
        (es.filter fun e => (new.enumerator? e.name).isNone).map (fun e => some e.name) ∧
      partsOf EnumChange.toChange .added (es.flatMap new.enumeratorChanges) = [] := by
  induction es with
  | nil => exact ⟨rfl, rfl⟩
  | cons e es ih =>
    simp only [List.flatMap_cons, partsOf_append, ih.1, ih.2, enumeratorChanges]
    cases h : new.enumerator? e.name with
    | none => simp [partsOf, EnumChange.toChange, h]
    | some n =>
      dsimp only
      split <;> simp [partsOf, EnumChange.toChange, h]

theorem kind_ite_aliasAdded (p : Prop) [Decidable p] (e : Enumerator) :
    (if p then EnumChange.aliasAdded e else .enumeratorAdded e).toChange.kind = .added ∧
      (if p then EnumChange.aliasAdded e else .enumeratorAdded e).toChange.part = some e.name := by
  split <;> exact ⟨rfl, rfl⟩

theorem partsOf_underlying {kind : ChangeKind} (hk : kind ≠ .changed) (old new : EnumType) :
    partsOf EnumChange.toChange kind (if old.underlying ≠ new.underlying then
      [.underlying old.underlying new.underlying] else []) = [] := by
  refine partsOf_eq_nil fun c hc => ?_
  obtain ⟨-, hc⟩ := List.mem_ite_nil_right.1 hc
  rw [List.mem_singleton.1 hc]
  exact Ne.symm hk

theorem partsOf_removed (old new : EnumType) :
    partsOf EnumChange.toChange .removed (old.changes new) = old.namesLacking new := by
  rw [changes, partsOf_append, partsOf_append, partsOf_underlying ChangeKind.removed_ne_changed,
    (partsOf_enumeratorChanges _ _).1, partsOf_map_eq_nil]
  · exact List.append_nil _
  · intro e
    simp [(kind_ite_aliasAdded _ e).1]

theorem partsOf_added (old new : EnumType) :
    partsOf EnumChange.toChange .added (old.changes new) = new.namesLacking old := by
  rw [changes, partsOf_append, partsOf_append, partsOf_underlying ChangeKind.added_ne_changed,
    (partsOf_enumeratorChanges _ _).2, partsOf_map _ fun e => (kind_ite_aliasAdded _ e).1]
  simp only [(kind_ite_aliasAdded _ _).2]
  rfl

/-- **The enumerators that an enumeration loses are those that it gains the other way round.** -/
theorem partsOf_changes_swap (old new : EnumType) :
    partsOf EnumChange.toChange .removed (old.changes new) =
      partsOf EnumChange.toChange .added (new.changes old) := by
  rw [partsOf_removed, partsOf_added]

end EnumType

/-- Functions and variables have no members: their changes are to the whole. -/
theorem Function.partsOf_changes {kind : ChangeKind} (hk : kind ≠ .changed)
    (cs : List FunctionChange) : partsOf FunctionChange.toChange kind cs = [] :=
  partsOf_eq_nil fun c _ => by cases c <;> exact Ne.symm hk

theorem GlobalVar.partsOf_changes {kind : ChangeKind} (hk : kind ≠ .changed)
    (cs : List GlobalChange) : partsOf GlobalChange.toChange kind cs = [] :=
  partsOf_eq_nil fun c _ => by cases c <;> exact Ne.symm hk

/-! ### Places -/

/-- Where an entry belongs: its category, its identifier and possibly a member. -/
def Entry.place (e : Entry) : Category × Uid × Option String := (e.category, e.uid, e.change.part)

/-- The places of the entries of one kind. -/
def places (kind : ChangeKind) (es : List Entry) : List (Category × Uid × Option String) :=
  (es.filter (·.kind = kind)).map Entry.place

section Places
variable {kind : ChangeKind} {es fs : List Entry}

theorem places_append : places kind (es ++ fs) = places kind es ++ places kind fs := by
  simp [places]

theorem places_perm (h : es.Perm fs) : (places kind es).Perm (places kind fs) :=
  (h.filter _).map _

/-- A test of entries that depends on the place alone can as well be applied to the places. -/
theorem places_filter {p : Entry → Bool} {q : Category × Uid × Option String → Bool}
    (h : ∀ e, e.kind = kind → p e = q e.place) :
    places kind (es.filter p) = (places kind es).filter q := by
  rw [places, places, List.filter_map, List.filter_filter, List.filter_filter]
  refine congrArg (List.map Entry.place) (List.filter_congr fun e _ => ?_)
  by_cases hk : e.kind = kind
  · simp [hk, h e hk]
  · simp [hk]

theorem places_flatMap {γ : Type} (xs : List γ) (f : γ → List Entry) :
    places kind (xs.flatMap f) = xs.flatMap fun x => places kind (f x) := by
  induction xs with
  | nil => rfl
  | cons x xs ih => rw [List.flatMap_cons, places_append, ih, List.flatMap_cons]

end Places

namespace Table

variable {α : Type} [Entity α]

theorem kind_removal (a : α) : (Entity.removal a).kind = .removed := by
  rw [Entity.removal]
  split <;> rfl

theorem place_removal (a : α) :
    (Entity.removal a).place = (Entity.category α, Entity.uid a, none) := by
  rw [Entity.removal]
  split <;> rfl

/-- The places of whole entities. -/
def wholes (as : List α) : List (Category × Uid × Option String) :=
  as.map fun a => (Entity.category α, Entity.uid a, none)

theorem places_presence (old new : Table α) :
    (places .removed (old.presence new)).Perm (wholes (old.without new)) ∧
      (places .added (old.presence new)).Perm (wholes (new.without old)) := by
  have hremoved : ∀ as : List α, places .removed (as.map Entity.removal) = wholes as ∧
      places .added (as.map Entity.removal) = [] := fun as => by
    simp [places, wholes, kind_removal, place_removal, List.filter_map, Function.comp_def]
  have hadded : ∀ as : List α, places .removed (as.map Entity.addition) = [] ∧
      places .added (as.map Entity.addition) = wholes as := fun as => by
    simp [places, wholes, Entity.addition, Entity.entry, Entry.kind, Entry.place, List.filter_map,
      Function.comp_def]
  constructor
  · refine (places_perm (List.mergeSort_perm _ _)).trans ?_
    rw [places_append, (hremoved _).1, (hadded _).1, List.append_nil]
  · refine (places_perm (List.mergeSort_perm _ _)).trans ?_
    rw [places_append, (hremoved _).2, (hadded _).2, List.nil_append]

theorem shared_nodup (old new : Table α) : (old.shared new).Nodup := by
  refine .filterMap (fun a b p ha hb => ?_) (old.sorted_perm.nodup_iff.2 old.entries_nodup)
  obtain ⟨_, -, rfl⟩ := Option.map_eq_some_iff.1 ha
  obtain ⟨_, -, h⟩ := Option.map_eq_some_iff.1 hb
  exact (congrArg Prod.fst h).symm

/-- **The shared entities are the same from both sides.** -/
theorem shared_swap (old new : Table α) :
    ((old.shared new).map Prod.swap).Perm (new.shared old) := by
  refine (List.perm_ext_iff_of_nodup ((old.shared_nodup new).map Prod.swap_injective)
    (new.shared_nodup old)).2 fun ⟨n, o⟩ => ?_
  rw [List.mem_map, mem_shared]
  constructor
  · rintro ⟨⟨o, n⟩, hp, ⟨⟩⟩
    obtain ⟨ho, hn, hu⟩ := mem_shared.1 hp
    exact ⟨hn, ho, hu.symm⟩
  · rintro ⟨hn, ho, hu⟩
    exact ⟨(o, n), mem_shared.2 ⟨ho, hn, hu.symm⟩, rfl⟩

/-- The entries for the changes of shared entities. -/
abbrev sharedEntries {β : Type} (changes : α → α → List β) (toChange : β → Change)
    (old new : Table α) : List Entry :=
  (old.shared new).flatMap fun (o, n) => (changes o n).map fun c => Entity.entry n (toChange c)

theorem places_entries {β : Type} {toChange : β → Change} {kind : ChangeKind} (a : α)
    (cs : List β) : places kind (cs.map fun c => Entity.entry a (toChange c)) =
      (partsOf toChange kind cs).map fun part => (Entity.category α, Entity.uid a, part) := by
  induction cs with
  | nil => rfl
  | cons c cs ih =>
    by_cases h : (toChange c).kind = kind
    · simpa [places, partsOf, h, Entry.kind, Entry.place, Entity.entry] using ih
    · simpa [places, partsOf, h, Entry.kind, Entity.entry] using ih

theorem places_sharedEntries {β : Type} {changes : α → α → List β} {toChange : β → Change}
    (h : ∀ o n, partsOf toChange .removed (changes o n) = partsOf toChange .added (changes n o))
    (old new : Table α) : (places .removed (sharedEntries changes toChange old new)).Perm
      (places .added (sharedEntries changes toChange new old)) := by
  simp only [sharedEntries, places_flatMap, places_entries]
  refine .trans ?_ ((shared_swap old new).flatMap_right _)
  rw [List.flatMap_map]
  refine .of_eq (List.flatMap_congr fun ⟨o, n⟩ hp => ?_)
  obtain ⟨-, -, hu⟩ := mem_shared.1 hp
  simp only [Prod.swap_prod_mk, h, hu]

end Table

/-! ### Snapshots -/

namespace Snapshot

/-- A function that is lost is paired by name exactly when it is, the other way round, gained. -/
theorem any_pairs_swap (m : Matching) (old new : Table Function) (u : Uid) :
    (m.pairs old new).any (·.1.uid == u) = (m.pairs new old).any (·.2.uid == u) := by
  refine Bool.eq_iff_iff.2 ?_
  simp only [List.any_eq_true, Prod.exists]
  constructor
  · rintro ⟨o, n, hp, hu⟩
    exact ⟨n, o, Matching.mem_pairs_swap.1 hp, hu⟩
  · rintro ⟨n, o, hp, hu⟩
    exact ⟨o, n, Matching.mem_pairs_swap.1 hp, hu⟩

theorem places_functionPresence (m : Matching) (old new : Snapshot) :
    places .removed (functionPresence m old new) =
        (places .removed (old.functions.presence new.functions)).filter
          (fun q => !(m.pairs old.functions new.functions).any (·.1.uid == q.2.1)) ∧
      places .added (functionPresence m old new) =
        (places .added (old.functions.presence new.functions)).filter
          (fun q => !(m.pairs old.functions new.functions).any (·.2.uid == q.2.1)) := by
  constructor <;> exact places_filter fun e he => by rw [he]; rfl

theorem places_pairs {kind : ChangeKind} (hk : kind ≠ .changed)
    (pairs : List (Function × Function)) :
    places kind (pairs.flatMap fun (o, n) =>
      (FunctionChange.signature o.uid n.uid :: o.changes n).map fun c =>
        Entity.entry n c.toChange) = [] := by
  rw [places_flatMap]
  refine List.flatMap_eq_nil_iff.2 fun ⟨o, n⟩ _ => ?_
  dsimp only
  rw [Table.places_entries, Function.partsOf_changes hk, List.map_nil]

theorem categoryEntries_swap (m : Matching) (old new : Snapshot) (c : Category) :
    (places .removed (categoryEntries m old new c)).Perm
      (places .added (categoryEntries m new old c)) := by
  have hpresence : ∀ {α : Type} [Entity α] (t t' : Table α),
      (places .removed (t.presence t')).Perm (places .added (t'.presence t)) := fun t t' =>
    (t.places_presence t').1.trans (t'.places_presence t).2.symm
  cases c with
  | records =>
    rw [categoryEntries, categoryEntries, recordEntries, recordEntries, places_append,
      places_append]
    exact (hpresence _ _).append (Table.places_sharedEntries Record.partsOf_changes_swap _ _)
  | enums =>
    rw [categoryEntries, categoryEntries, enumEntries, enumEntries, places_append, places_append]
    exact (hpresence _ _).append (Table.places_sharedEntries EnumType.partsOf_changes_swap _ _)
  | functions =>
    rw [categoryEntries, categoryEntries, functionEntries, functionEntries, places_append,
      places_append, places_append, places_append, places_pairs (by decide),
      places_pairs (by decide), List.append_nil, List.append_nil,
      (places_functionPresence m old new).1, (places_functionPresence m new old).2]
    refine .append ?_ (Table.places_sharedEntries (fun o n => ?_) _ _)
    · simp only [any_pairs_swap]
      exact (hpresence _ _).filter _
    · rw [Function.partsOf_changes (by decide), Function.partsOf_changes (by decide)]
  | globals =>
    rw [categoryEntries, categoryEntries, globalEntries, globalEntries, places_append,
      places_append]
    refine (hpresence _ _).append (Table.places_sharedEntries (fun o n => ?_) _ _)
    rw [GlobalVar.partsOf_changes (by decide), GlobalVar.partsOf_changes (by decide)]

/-- **What is removed one way is added the other way**, as often and at the same places. -/
theorem compare_removed_perm_added (m : Matching) (ignored : Uid → Bool) (old new : Snapshot) :
    (places .removed (compare m ignored old new).entries).Perm
      (places .added (compare m ignored new old).entries) := by
  by_cases hagree : old.Agrees new
  · rw [compare_of_agrees hagree, compare_of_agrees hagree.symm]
    rfl
  · -- sorting permutes the places, and what is ignored is ignored at its place
    have hfound : ∀ kind es, (places kind ((es.mergeSort Entry.le).filter fun e =>
        !ignored e.uid)).Perm ((places kind es).filter fun q => !ignored q.2.1) := fun kind es => by
      have hkept : places kind ((es.mergeSort Entry.le).filter fun e => !ignored e.uid) =
          (places kind (es.mergeSort Entry.le)).filter fun q => !ignored q.2.1 :=
        places_filter fun _ _ => rfl
      rw [hkept]
      exact (places_perm (List.mergeSort_perm es Entry.le)).filter _
    rw [entries_compare hagree, entries_compare (mt Snapshot.Agrees.symm hagree)]
    refine (hfound _ _).trans (.trans (.filter _ ?_) (hfound _ _).symm)
    rw [places_flatMap, places_flatMap]
    exact List.Perm.flatMap_left _ fun c _ => categoryEntries_swap m old new c

end Snapshot

end HeaderAbi
