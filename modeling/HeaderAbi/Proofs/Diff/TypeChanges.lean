import HeaderAbi.Proofs.Diff.Ignoring
import HeaderAbi.Proofs.Dump.Text
import HeaderAbi.Proofs.TypeRef.FunctionTypes

/-!
# Types that are compared

A comparison looks at the types of fields that are paired, at the results and parameters of
functions that it takes for one another, and at the types of variables.  At each of these places
(`TypePlace`) it asks whether two uses of types are equal, and equality of uses takes into account
what their function types go by.

* `mem_compare_place_iff`: the entries on the entity are those for the changes of its two versions.
* `TypePlace.changed_iff`: a change of the type is among these exactly when the uses differ.
* `type_changed_iff`: so **uses of one type count as changed exactly when their function types go by
  different identifiers**, which function types do not that go by their spelling.
-/

namespace HeaderAbi

open NamePair

/-! ### Places -/

/-- A place at which each of two versions of an entity uses a type. -/
inductive TypePlace where
  | field (o n : Record) (f g : Field)
  | result (o n : Function)
  | parameter (o n : Function) (index : Nat) (a b : TypeRef)
  | global (o n : GlobalVar)

namespace TypePlace

/-- The old and the new use. -/
def uses : TypePlace → TypeRef × TypeRef
  | field _ _ f g => (f.type, g.type)
  | result o n => (o.result, n.result)
  | parameter _ _ _ a b => (a, b)
  | global o n => (o.type, n.type)

/-- The entity in its new version. -/
def entity : TypePlace → Item
  | field _ n _ _ => .record n
  | result _ n => .function n
  | parameter _ n _ _ _ => .function n
  | global _ n => .global n

/-- A different type at the place is among the changes of the entity. -/
def Changed : TypePlace → Prop
  | field o n f g => RecordChange.fieldType f g ∈ o.changes n
  | result o n => FunctionChange.result o.result n.result ∈ o.changes n
  | parameter o n i a b => FunctionChange.parameter i a b ∈ o.changes n
  | global o n => GlobalChange.type o.type n.type ∈ o.changes n

/-- The entry for a different type at the place. -/
def entry : TypePlace → Entry
  | field _ n f g => Entity.entry n (RecordChange.fieldType f g).toChange
  | result o n => Entity.entry n (FunctionChange.result o.result n.result).toChange
  | parameter _ n i a b => Entity.entry n (FunctionChange.parameter i a b).toChange
  | global o n => Entity.entry n (GlobalChange.type o.type n.type).toChange

/-- The entries for the changes of the entity.  A function under another identifier than before has
one for that. -/
def entries : TypePlace → List Entry
  | field o n _ _ => (Item.record o).changes (.record n)
  | result o n => if n.uid = o.uid then attributeEntries o n else superseding (o, n)
  | parameter o n _ _ _ => if n.uid = o.uid then attributeEntries o n else superseding (o, n)
  | global o n => (Item.global o).changes (.global n)

end TypePlace

/-- A comparison takes the second function for a version of the first: they share their identifier,
or they are paired by name. -/
def Counterparts (m : Matching) (old new : Snapshot) (o n : Function) : Prop :=
  (o ∈ old.functions.entries ∧ n ∈ new.functions.entries ∧ n.uid = o.uid) ∨
    (o, n) ∈ m.pairs old.functions new.functions

/-- The places that a comparison looks at. -/
inductive TypePlace.Matched (m : Matching) (old new : Snapshot) : TypePlace → Prop where
  | field {o n : Record} {p : Placed × Placed} (ho : o ∈ old.records.entries)
      (hn : n ∈ new.records.entries) (huid : n.uid = o.uid) (hcomplete : o.isOpaque = false)
      (hcomplete' : n.isOpaque = false)
      (hp : p ∈ (FieldPairing.ofFields o.fields n.fields).matched) :
      Matched m old new (.field o n p.1.field p.2.field)
  | result {o n : Function} (h : Counterparts m old new o n) : Matched m old new (.result o n)
  | parameter {o n : Function} {i : Nat} {a b : TypeRef} (h : Counterparts m old new o n)
      (hlength : o.parameters.length = n.parameters.length) (ha : o.parameters[i]? = some a)
      (hb : n.parameters[i]? = some b) : Matched m old new (.parameter o n i a b)
  | global {o n : GlobalVar} (ho : o ∈ old.globals.entries) (hn : n ∈ new.globals.entries)
      (huid : n.uid = o.uid) : Matched m old new (.global o n)

/-! ### Changes of types -/

namespace RecordChange

/-- A change of the type of a field is found where the types differ. -/
theorem type_ne_of_mem_ofFieldLists {old new : List Field} {f g : Field}
    (h : fieldType f g ∈ ofFieldLists old new) : f.type ≠ g.type := by
  simp only [ofFieldLists, List.mem_append, List.mem_map, List.mem_flatMap, reduceCtorEq, and_false,
    exists_false, or_false] at h
  obtain ⟨p, -, h⟩ := h
  simp only [ofFields, when, List.mem_append, List.mem_ite_nil_right, List.mem_singleton,
    reduceCtorEq, and_false, or_false, false_or, fieldType.injEq] at h
  obtain ⟨hne, rfl, rfl⟩ := h
  exact hne

theorem fieldType_mem_ofFieldLists_iff {old new : List Field} {p : Placed × Placed}
    (hp : p ∈ (FieldPairing.ofFields old new).matched) :
    fieldType p.1.field p.2.field ∈ ofFieldLists old new ↔ p.1.field.type ≠ p.2.field.type := by
  refine ⟨type_ne_of_mem_ofFieldLists, fun hne => ?_⟩
  have hfields : fieldType p.1.field p.2.field ∈ ofFields p.1.field p.2.field := by
    simp [ofFields, when, hne]
  simp only [ofFieldLists, List.mem_append, List.mem_flatMap]
  exact .inl (.inl (.inl ⟨p, hp, hfields⟩))

end RecordChange

theorem Record.fieldType_mem_changes_iff {o n : Record} (ho : o.isOpaque = false)
    (hn : n.isOpaque = false) {f g : Field} : RecordChange.fieldType f g ∈ o.changes n ↔
      .fieldType f g ∈ RecordChange.ofFieldLists o.fields n.fields := by
  simp [changes, layoutChanges, RecordChange.when, ho, hn]

namespace FunctionChange

theorem parameter_mem_ofParameters_iff {os ns : List TypeRef} {i : Nat} {a b : TypeRef} :
    parameter i a b ∈ ofParameters os ns ↔ os.length = ns.length ∧ os[i]? = some a ∧
      ns[i]? = some b ∧ a ≠ b := by
  rw [ofParameters]
  split
  · next hlength =>
    simp only [hlength, true_and, List.mem_flatMap, when, List.mem_ite_nil_right,
      List.mem_singleton, parameter.injEq, Prod.exists, List.mk_mem_zipIdx_iff_getElem?,
      List.getElem?_zip_eq_some]
    constructor
    · rintro ⟨a, b, i, ⟨ha, hb⟩, hne, rfl, rfl, rfl⟩
      exact ⟨ha, hb, hne⟩
    · rintro ⟨ha, hb, hne⟩
      exact ⟨a, b, i, ⟨ha, hb⟩, hne, rfl, rfl, rfl⟩
  · next hlength => simp [hlength]

theorem result_not_mem_ofParameters {os ns : List TypeRef} {a b : TypeRef} :
    result a b ∉ ofParameters os ns := by
  rw [ofParameters]
  split <;> simp [when]

theorem result_not_mem_ofDispatch {d d' : Option Dispatch} {a b : TypeRef} :
    result a b ∉ ofDispatch d d' := by
  cases d <;> cases d' <;> simp [ofDispatch, when]

theorem parameter_not_mem_ofDispatch {d d' : Option Dispatch} {i : Nat} {a b : TypeRef} :
    parameter i a b ∉ ofDispatch d d' := by
  cases d <;> cases d' <;> simp [ofDispatch, when]

end FunctionChange

namespace Function

open FunctionChange

theorem result_mem_changes_iff {o n : Function} :
    FunctionChange.result o.result n.result ∈ o.changes n ↔ o.result ≠ n.result := by
  simp [changes, when, result_not_mem_ofParameters, result_not_mem_ofDispatch]

theorem parameter_mem_changes_iff {o n : Function} {i : Nat} {a b : TypeRef} :
    parameter i a b ∈ o.changes n ↔ parameter i a b ∈ ofParameters o.parameters n.parameters := by
  simp [changes, when, parameter_not_mem_ofDispatch]

end Function

theorem GlobalVar.type_mem_changes_iff {o n : GlobalVar} :
    GlobalChange.type o.type n.type ∈ o.changes n ↔ o.type ≠ n.type := by
  simp [changes]

/-! ### Places that are compared -/

namespace TypePlace

variable {m : Matching} {old new : Snapshot} {p : TypePlace}

/-- **A place that is compared counts as changed exactly when its uses differ.** -/
theorem changed_iff (hp : p.Matched m old new) : p.Changed ↔ p.uses.1 ≠ p.uses.2 := by
  cases hp with
  | field ho hn huid hcomplete hcomplete' hp =>
    exact (Record.fieldType_mem_changes_iff hcomplete hcomplete').trans
      (RecordChange.fieldType_mem_ofFieldLists_iff hp)
  | result h => exact Function.result_mem_changes_iff
  | parameter h hlength ha hb =>
    exact Function.parameter_mem_changes_iff.trans
      (FunctionChange.parameter_mem_ofParameters_iff.trans (by simp [hlength, ha, hb, uses]))
  | global ho hn huid => exact GlobalVar.type_mem_changes_iff

/-- A change of the type has its entry, which is breaking. -/
theorem entry_mem_entries (h : p.Changed) : p.entry ∈ p.entries ∧ p.entry.isBreaking = true := by
  have hfunction {o n : Function} {c : FunctionChange} (hc : c ∈ o.changes n) :
      Entity.entry n c.toChange ∈
        if n.uid = o.uid then attributeEntries o n else superseding (o, n) := by
    have hentry : Entity.entry n c.toChange ∈ attributeEntries o n :=
      List.mem_map_of_mem (f := fun c => Entity.entry n (FunctionChange.toChange c)) hc
    split
    · exact hentry
    · exact List.mem_cons_of_mem _ hentry
  cases p with
  | field o n f g => exact ⟨List.mem_map_of_mem h, rfl⟩
  | result o n => exact ⟨hfunction h, rfl⟩
  | parameter o n i a b => exact ⟨hfunction h, rfl⟩
  | global o n => exact ⟨List.mem_map_of_mem h, rfl⟩

end TypePlace

/-! ### Entries on one entity -/

namespace Snapshot

variable {m : Matching} {ignored : Uid → Bool} {old new : Snapshot} {e : Entry}

/-- **The entries on an entity of both sides** are those for the changes between its two versions,
unless an entity that has not changed would have some. -/
theorem mem_compare_common_iff {o n : Item} (ho : o ∈ old.contents.items)
    (hn : n ∈ new.contents.items) (hkey : o.key = n.key) (hself : n.changes n = []) :
    e ∈ (compare m ignored old new).entries ∧ e.key = n.key ↔
      ignored n.key.2 = false ∧ e ∈ o.changes n := by
  rw [← found_common_iff (m := m) ho hn hkey, mem_compare_iff]
  constructor
  · rintro ⟨⟨-, hshown, hfound⟩, he⟩
    have huid : e.uid = n.key.2 := congrArg Prod.snd he
    exact ⟨huid ▸ hshown, hfound, he⟩
  · rintro ⟨hshown, hfound, he⟩
    have huid : e.uid = n.key.2 := congrArg Prod.snd he
    refine ⟨⟨fun hagree => ?_, huid ▸ hshown, hfound⟩, he⟩
    -- snapshots that agree hold one version of the entity
    have hold : o ∈ new.contents.items := (Contents.agrees_iff_mem_items.1 hagree o).1 ho
    obtain rfl : o = n := Contents.eq_of_key_eq hold hn hkey
    have hmem := (found_common_iff ho hn hkey).1 ⟨hfound, he⟩
    rw [hself] at hmem
    exact List.not_mem_nil hmem

/-- The entries of a pair are those for its changes, the first being that of its identifier. -/
theorem superseding_eq (o n : Function) : superseding (o, n) =
    (FunctionChange.signature o.uid n.uid :: o.changes n).map fun c =>
      Entity.entry n c.toChange := rfl

/-- What is found under the new identifier of a pair are the entries of the pair. -/
theorem found_pair_iff {o n : Function} (hp : (o, n) ∈ m.pairs old.functions new.functions) :
    Found m old new e ∧ e.key = (.functions, n.uid) ↔ e ∈ superseding (o, n) := by
  rw [superseding_eq, List.mem_map]
  constructor
  · rintro ⟨hfound, hentry⟩
    obtain ⟨hn, hgained⟩ := Listed.mem_without_iff.1 (Matching.mem_without_of_mem_pairs hp).2
    cases hfound with
    | removed hi _ _ => exact absurd ⟨_, hi, Item.key_removal.symm.trans hentry⟩ hgained
    | added hi _ halone =>
      have hsame := Contents.eq_of_key_eq hi (Contents.function_mem_items.2 hn)
        (Item.key_addition.symm.trans hentry)
      exact absurd hsame (halone _ hp)
    | changed ho' _ hkey he =>
      have hold := hkey.symm.trans ((Item.key_of_mem_changes he).symm.trans hentry)
      exact absurd ⟨_, ho', hold⟩ hgained
    | @paired o' n' c hp' hc =>
      have huid : n'.uid = n.uid := congrArg Prod.snd hentry
      have hsame : (o', n') ∈ [(o, n)] := by
        rw [← Matching.filter_snd_eq hp]
        exact List.mem_filter.2 ⟨hp', decide_eq_true huid⟩
      obtain ⟨rfl, rfl⟩ := Prod.mk.inj (List.mem_singleton.1 hsame)
      exact ⟨c, hc, rfl⟩
  · rintro ⟨c, hc, rfl⟩
    exact ⟨.paired hp hc, rfl⟩

/-- **The entries under the new identifier of a pair** are those of the pair. -/
theorem mem_compare_pair_iff {o n : Function} (hp : (o, n) ∈ m.pairs old.functions new.functions) :
    e ∈ (compare m ignored old new).entries ∧ e.key = (.functions, n.uid) ↔
      ignored n.uid = false ∧ e ∈ superseding (o, n) := by
  rw [← found_pair_iff hp, mem_compare_iff]
  constructor
  · rintro ⟨⟨-, hshown, hfound⟩, he⟩
    have huid : e.uid = n.uid := congrArg Prod.snd he
    exact ⟨huid ▸ hshown, hfound, he⟩
  · rintro ⟨hshown, hfound, he⟩
    have huid : e.uid = n.uid := congrArg Prod.snd he
    exact ⟨⟨not_agrees_of_mem_pairs hp, huid ▸ hshown, hfound⟩, he⟩

/-- **The entries on the entity of a place** are those for its changes. -/
theorem mem_compare_place_iff {p : TypePlace} (hp : p.Matched m old new) :
    e ∈ (compare m ignored old new).entries ∧ e.key = p.entity.key ↔
      ignored p.entity.key.2 = false ∧ e ∈ p.entries := by
  have hfunction {o n : Function} (h : Counterparts m old new o n) :
      e ∈ (compare m ignored old new).entries ∧ e.key = (.functions, n.uid) ↔
        ignored n.uid = false ∧
          e ∈ if n.uid = o.uid then attributeEntries o n else superseding (o, n) := by
    obtain ⟨ho, hn, huid⟩ | hpair := h
    · rw [if_pos huid]
      exact mem_compare_common_iff (o := .function o) (n := .function n)
        (Contents.function_mem_items.2 ho) (Contents.function_mem_items.2 hn)
        (by rw [Item.key, Item.key, huid]) (by simp [Item.changes, n.changes_self])
    · obtain ⟨hn, hgained⟩ := Table.mem_without.1 (Matching.mem_without_of_mem_pairs hpair).2
      have huid : n.uid ≠ o.uid := fun huid => hgained o (Matching.fst_mem hpair) huid.symm
      rw [if_neg huid]
      exact mem_compare_pair_iff hpair
  cases hp with
  | @field o n _ ho hn huid _ _ _ =>
    exact mem_compare_common_iff (o := .record o) (n := .record n) (Contents.record_mem_items.2 ho)
      (Contents.record_mem_items.2 hn) (by rw [Item.key, Item.key, huid])
      (by simp [Item.changes, n.changes_self])
  | result h => exact hfunction h
  | parameter h _ _ _ => exact hfunction h
  | @global o n ho hn huid =>
    exact mem_compare_common_iff (o := .global o) (n := .global n) (Contents.global_mem_items.2 ho)
      (Contents.global_mem_items.2 hn) (by rw [Item.key, Item.key, huid])
      (by simp [Item.changes, n.changes_self])

/-- **Uses of one type count as changed exactly when their function types go by different
identifiers.**  They do not where function types go by their spelling.  Such a change is reported
as breaking: the entries on the entity are those for its changes, unless it is ignored. -/
theorem type_changed_iff (m : Matching) (ignored : Uid → Bool) {old new : Snapshot}
    {p : TypePlace} (hp : p.Matched m old new) (hsame : p.uses.1.SameType p.uses.2) :
    (p.Changed ↔ p.uses.1.functionUids ≠ p.uses.2.functionUids) ∧
      (p.uses.1.SpelledOut → p.uses.2.SpelledOut → ¬ p.Changed) ∧
      (p.Changed → p.entry ∈ p.entries ∧ p.entry.isBreaking = true) ∧
      ∀ e, e ∈ (compare m ignored old new).entries ∧ e.key = p.entity.key ↔
        ignored p.entity.key.2 = false ∧ e ∈ p.entries := by
  have hchanged : p.Changed ↔ p.uses.1 ≠ p.uses.2 := TypePlace.changed_iff hp
  refine ⟨hchanged.trans (not_congr hsame.eq_iff), fun hold hnew h => ?_,
    TypePlace.entry_mem_entries, fun e => mem_compare_place_iff hp⟩
  exact hchanged.1 h (hsame.eq_of_spelledOut hold hnew)

end Snapshot

/-! ### A callback under two names -/

/-- A variable for a function from `int` to `void`, whose type goes by some name. -/
def listener (name : String) : GlobalVar :=
  .ofName "listener" (.function ⟨⟨name⟩, {}, [.pointer {}], []⟩ (.ofName "void") [.ofName "int"]
    false .cdecl)

theorem sameType_listener (name name' : String) :
    (listener name).type.SameType (listener name').type := by
  refine .function rfl rfl rfl (.named _) rfl fun p p' hp => ?_
  obtain ⟨rfl, rfl⟩ := Prod.mk.inj (List.mem_singleton.1 hp)
  exact .named _

namespace Snapshot

/-- A snapshot with the variable alone. -/
def listening (name : String) : Snapshot where
  contents := { Contents.empty with globals := ⟨[listener name], List.nodup_singleton _⟩ }
  sound := rfl

/-- Such a snapshot can be read from a dump. -/
theorem exists_decode_listening (name : String) : ∃ bytes, decode bytes = .ok (listening name) := by
  have hr : (listening name).records.sorted = [] := List.mergeSort_nil
  have he : (listening name).enums.sorted = [] := List.mergeSort_nil
  have hf : (listening name).functions.sorted = [] := List.mergeSort_nil
  have hg : (listening name).globals.sorted = [listener name] := List.mergeSort_singleton _
  have hdepth : (Document.ofSnapshot (listening name)).toData.depth ≤ Json.nestingLimit := by
    rw [Document.ofSnapshot, hr, he, hf, hg]
    exact Nat.le_of_ble_eq_true rfl
  have hcontents : (listening name).contents.sorted = (listening name).contents := by
    simp [Contents.sorted, Table.sorted, listening, Contents.empty, Table.empty]
  have hsorted : (listening name).sorted = listening name := by
    simp only [sorted, hcontents]
  refine ⟨(listening name).encode .json false, ?_⟩
  rw [decode_encode_json, if_pos hdepth, hsorted]

/-- The variable under two names. -/
def listenerPlace : TypePlace := .global (listener "void (int)") (listener "handler")

theorem matched_listenerPlace :
    listenerPlace.Matched .byUid (listening "void (int)") (listening "handler") :=
  .global (by decide) (by decide) rfl

theorem type_changed_listener :
    listenerPlace.Matched .byUid (listening "void (int)") (listening "handler") ∧
      listenerPlace.uses.1.SameType listenerPlace.uses.2 ∧ listenerPlace.Changed := by
  have hmatched := matched_listenerPlace
  have hsame : listenerPlace.uses.1.SameType listenerPlace.uses.2 := sameType_listener _ _
  exact ⟨hmatched, hsame,
    (type_changed_iff .byUid (fun _ => false) hmatched hsame).1.2 (by decide)⟩

/-- A use of one type may be reported, and as breaking, for what its function type goes by. -/
theorem exists_type_reported : ∃ (old new : Snapshot) (p : TypePlace),
    (∃ bytes, decode bytes = .ok old) ∧ (∃ bytes, decode bytes = .ok new) ∧
      p.Matched .byUid old new ∧ p.uses.1.SameType p.uses.2 ∧ p.Changed ∧
      p.entry ∈ (compare .byUid (fun _ => false) old new).entries ∧ p.entry.isBreaking = true := by
  have hchanged : listenerPlace.Changed :=
    (TypePlace.changed_iff matched_listenerPlace).2 (by decide)
  obtain ⟨hentry, hbreaking⟩ := TypePlace.entry_mem_entries hchanged
  have hreported : listenerPlace.entry ∈ (compare .byUid (fun _ => false)
      (listening "void (int)") (listening "handler")).entries ∧
        listenerPlace.entry.key = listenerPlace.entity.key :=
    (mem_compare_place_iff matched_listenerPlace).2 ⟨rfl, hentry⟩
  exact ⟨_, _, listenerPlace, exists_decode_listening _, exists_decode_listening _,
    matched_listenerPlace, sameType_listener _ _, hchanged, hreported.1, hbreaking⟩

end Snapshot

end HeaderAbi
