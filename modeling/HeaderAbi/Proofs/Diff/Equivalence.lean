import HeaderAbi.Proofs.Diff.Soundness

/-!
# A comparison without entries

`Equivalent old new` says that two snapshots hold entities of the same identifiers, alike in
everything that a comparison looks at.  A comparison that finds nothing warrants it.

Each list of changes is read as the conditions under which it is empty.  Two lists of fields without
changes are permutations of each other (`RecordChange.perm_of_ofFieldLists_eq_nil`): the pairs of
equal names use up both of them, and the fields of a pair are equal.
-/

namespace HeaderAbi

/-! ### Entities that are alike -/

/-- Two complete records of one layout, whose fields may stand in another order. -/
structure SameLayout (old new : Record) : Prop where
  kind : new.kind = old.kind
  size : new.sizeBits = old.sizeBits
  alignment : new.alignBits = old.alignBits
  bases : new.bases = old.bases
  vtable : new.vtable = old.vtable
  fields : new.fields.Perm old.fields

/-- Two records that are alike: both declared only, or both complete with one layout. -/
structure AlikeRecords (old new : Record) : Prop where
  template : new.template = old.template
  isOpaque : new.isOpaque = old.isOpaque
  layout : old.isOpaque = false → SameLayout old new

/-- Two enumerations that are alike: the old names keep their numbers and no name is new. -/
structure AlikeEnums (old new : EnumType) : Prop where
  underlying : new.underlying = old.underlying
  values : ∀ e ∈ old.enumerators, ∃ e' ∈ new.enumerators,
    e'.name = e.name ∧ e'.value.toInt = e.value.toInt
  names : ∀ e ∈ new.enumerators, ∃ e' ∈ old.enumerators, e'.name = e.name

/-- Two functions that are alike. -/
structure AlikeFunctions (old new : Function) : Prop where
  result : new.result = old.result
  parameters : new.parameters = old.parameters
  variadic : new.variadic = old.variadic
  convention : new.convention = old.convention
  linkage : new.linkage = old.linkage
  dispatch : new.dispatch = old.dispatch
  access : new.access = old.access

/-- Two variables that are alike. -/
structure AlikeGlobals (old new : GlobalVar) : Prop where
  type : new.type = old.type
  linkage : new.linkage = old.linkage

/-- Two tables have the same identifiers, and what one identifier stands for is alike. -/
structure Table.Matches {α : Type} [Entity α] (alike : α → α → Prop) (old new : Table α) :
    Prop where
  uids : ∀ u, new.contains u = old.contains u
  entities : ∀ o ∈ old.entries, ∀ n ∈ new.entries, Entity.uid n = Entity.uid o → alike o n

/-- Two snapshots that are alike in every category. -/
structure Equivalent (old new : Snapshot) : Prop where
  records : old.records.Matches AlikeRecords new.records
  enums : old.enums.Matches AlikeEnums new.enums
  functions : old.functions.Matches AlikeFunctions new.functions
  globals : old.globals.Matches AlikeGlobals new.globals

theorem AlikeRecords.refl (r : Record) : AlikeRecords r r :=
  ⟨rfl, rfl, fun _ => ⟨rfl, rfl, rfl, rfl, rfl, .refl _⟩⟩

theorem AlikeEnums.refl (e : EnumType) : AlikeEnums e e :=
  ⟨rfl, fun a ha => ⟨a, ha, rfl, rfl⟩, fun a ha => ⟨a, ha, rfl⟩⟩

theorem AlikeFunctions.refl (f : Function) : AlikeFunctions f f :=
  ⟨rfl, rfl, rfl, rfl, rfl, rfl, rfl⟩

theorem AlikeGlobals.refl (g : GlobalVar) : AlikeGlobals g g := ⟨rfl, rfl⟩

/-- A list without changes breaks nothing. -/
theorem harmless_of_eq_nil {β : Type} {toChange : β → Change} {cs : List β} (h : cs = []) :
    Harmless toChange cs := by
  subst h
  exact fun c hc => (List.not_mem_nil hc).elim

/-- What a change would report has not changed. -/
theorem eq_of_if_eq_nil {α β : Type} [DecidableEq α] {a b : α} {c : β}
    (h : (if a ≠ b then [c] else []) = []) : b = a := by
  by_contra hne
  rw [if_pos (Ne.symm hne)] at h
  cases h

/-! ### Records -/

namespace FieldPairing

theorem map_field_place (fields : List Field) : (place fields).map Placed.field = fields := by
  rw [place, List.map_map]
  exact List.zipIdx_map_fst 0 fields

/-- The fields of a pair have one name. -/
theorem name_eq_of_mem_matched {old new : List Field} {o n : Placed}
    (h : (o, n) ∈ (ofFields old new).matched) : n.field.name = o.field.name := by
  obtain ⟨group, hg, hmem⟩ := List.mem_flatMap.1 ((List.mergeSort_perm _ _).mem_iff.1 h)
  obtain ⟨name, -, rfl⟩ := List.mem_map.1 hg
  have ho := (ofGroup_perm_old _ _).mem_iff.1 (List.mem_append_left _ (List.mem_map_of_mem hmem))
  have hn := (ofGroup_perm_new _ _).mem_iff.1 (List.mem_append_left _ (List.mem_map_of_mem hmem))
  have hon : o.field.name = name := by simpa using List.of_mem_filter ho
  have hnn : n.field.name = name := by simpa using List.of_mem_filter hn
  rw [hon, hnn]

end FieldPairing

namespace RecordChange

theorem agree_of_ofFields_eq_nil {o n : Field} (h : ofFields o n = []) :
    n.offsetBits = o.offsetBits ∧ n.bitWidth = o.bitWidth ∧ n.type = o.type ∧
      n.access = o.access := by
  simp only [ofFields, when, List.append_eq_nil_iff] at h
  obtain ⟨⟨⟨hoffset, hwidth⟩, htype⟩, haccess⟩ := h
  exact ⟨eq_of_if_eq_nil hoffset, eq_of_if_eq_nil hwidth, eq_of_if_eq_nil htype,
    eq_of_if_eq_nil haccess⟩

/-- **Lists of fields without changes are permutations of each other.** -/
theorem perm_of_ofFieldLists_eq_nil {old new : List Field} (h : ofFieldLists old new = []) :
    new.Perm old := by
  set p := FieldPairing.ofFields old new with hp
  simp only [ofFieldLists, List.append_eq_nil_iff, List.map_eq_nil_iff, List.flatMap_eq_nil_iff,
    ← hp] at h
  obtain ⟨⟨⟨hmatched, hrenamed⟩, hgone⟩, hcome⟩ := h
  -- Nothing is renamed, so the fields without partner of the same name are gone or new.
  have hremoved : p.removed = [] := by
    have := p.renamings_perm_old
    rw [hrenamed, hgone] at this
    exact this.nil_eq.symm
  have hadded : p.added = [] := by
    have := p.renamings_perm_new
    rw [hrenamed, hcome] at this
    exact this.nil_eq.symm
  have hfields : ∀ q ∈ p.matched, q.2.field = q.1.field := by
    rintro ⟨o, n⟩ hq
    obtain ⟨hoffset, hwidth, htype, haccess⟩ := agree_of_ofFields_eq_nil (hmatched _ hq)
    have hname : n.field.name = o.field.name := FieldPairing.name_eq_of_mem_matched hq
    obtain ⟨i, o⟩ := o
    obtain ⟨j, n⟩ := n
    cases o; cases n
    simp_all
  have hold : (p.matched.map fun q => q.1.field).Perm old := by
    have := (FieldPairing.ofFields_perm_old old new).map Placed.field
    rw [← hp, hremoved, List.append_nil, FieldPairing.map_field_place, List.map_map] at this
    exact this
  have hnew : (p.matched.map fun q => q.2.field).Perm new := by
    have := (FieldPairing.ofFields_perm_new old new).map Placed.field
    rw [← hp, hadded, List.append_nil, FieldPairing.map_field_place, List.map_map] at this
    exact this
  rw [List.map_congr_left hfields] at hnew
  exact hnew.symm.trans hold

end RecordChange

theorem sameLayout_of_layoutChanges_eq_nil {o n : Record} (h : o.layoutChanges n = []) :
    SameLayout o n := by
  simp only [Record.layoutChanges, RecordChange.when, List.append_eq_nil_iff] at h
  obtain ⟨⟨⟨⟨⟨hkind, hsize⟩, halign⟩, hbases⟩, hfields⟩, hvtable⟩ := h
  exact ⟨eq_of_if_eq_nil hkind, eq_of_if_eq_nil hsize, eq_of_if_eq_nil halign,
    eq_of_if_eq_nil hbases, eq_of_if_eq_nil hvtable,
    RecordChange.perm_of_ofFieldLists_eq_nil hfields⟩

theorem alikeRecords_of_changes_eq_nil {o n : Record} (h : o.changes n = []) :
    AlikeRecords o n := by
  obtain ⟨htemplate, hlayout⟩ := List.append_eq_nil_iff.1 h
  refine ⟨eq_of_if_eq_nil htemplate, ?_, fun ho => ?_⟩
  · cases ho : o.isOpaque <;> cases hn : n.isOpaque <;> simp_all
  · cases hn : n.isOpaque
    · rw [ho, hn] at hlayout
      exact sameLayout_of_layoutChanges_eq_nil hlayout
    · rw [ho, hn] at hlayout
      cases hlayout

/-! ### Enumerations, functions and variables -/

theorem alikeEnums_of_changes_eq_nil {o n : EnumType} (h : o.changes n = []) : AlikeEnums o n := by
  have hkept := enumeratorsKept_of_harmless (harmless_of_eq_nil h)
  refine ⟨hkept.underlying, hkept.values, fun e he => ?_⟩
  have hknown := List.map_eq_nil_iff.1 (List.append_eq_nil_iff.1 h).2
  obtain ⟨e', he'⟩ : ∃ e', o.enumerator? e.name = some e' :=
    Option.ne_none_iff_exists'.1 (by simpa using List.filter_eq_nil_iff.1 hknown e he)
  exact ⟨e', List.mem_of_find?_eq_some he', by simpa using List.find?_some he'⟩

theorem dispatch_eq_of_ofDispatch_eq_nil {o n : Option Dispatch}
    (h : FunctionChange.ofDispatch o n = []) : n = o := by
  rcases o with _ | ⟨i, p⟩ <;> rcases n with _ | ⟨j, q⟩
  · rfl
  · cases h
  · cases h
  · obtain ⟨hindex, hpure⟩ := List.append_eq_nil_iff.1 h
    have hij : j = i := eq_of_if_eq_nil hindex
    have hpq : q = p := eq_of_if_eq_nil hpure
    rw [hij, hpq]

theorem alikeFunctions_of_changes_eq_nil {o n : Function} (h : o.changes n = []) :
    AlikeFunctions o n := by
  have hkept := callKept_of_harmless (harmless_of_eq_nil h)
  simp only [Function.changes, FunctionChange.when, List.append_eq_nil_iff] at h
  obtain ⟨⟨⟨-, hlinkage⟩, hdispatch⟩, haccess⟩ := h
  exact ⟨hkept.result, hkept.parameters, hkept.variadic, hkept.convention,
    eq_of_if_eq_nil hlinkage, dispatch_eq_of_ofDispatch_eq_nil hdispatch, eq_of_if_eq_nil haccess⟩

theorem alikeGlobals_of_changes_eq_nil {o n : GlobalVar} (h : o.changes n = []) :
    AlikeGlobals o n := by
  obtain ⟨htype, hlinkage⟩ := List.append_eq_nil_iff.1 h
  exact ⟨eq_of_if_eq_nil htype, eq_of_if_eq_nil hlinkage⟩

/-! ### Snapshots -/

namespace Table

variable {α : Type} [Entity α]

theorem Matches.of_agrees {alike : α → α → Prop} (hrefl : ∀ a, alike a a) {old new : Table α}
    (h : old.Agrees new) : old.Matches alike new where
  uids u := Bool.eq_iff_iff.2 (by simp only [contains_iff_exists, h.mem_iff])
  entities o ho n hn hu := eq_of_uid_eq hn (h.mem_iff.1 ho) hu ▸ hrefl n

/-- Without entries for presence, two tables have the same identifiers. -/
theorem contains_eq_of_presence_eq_nil {old new : Table α} (h : old.presence new = []) (u : Uid) :
    new.contains u = old.contains u := by
  have hnone : ∀ e, e ∉ old.presence new := by simp [h]
  refine Bool.eq_iff_iff.2 ⟨fun hu => ?_, fun hu => ?_⟩
  · obtain ⟨a, ha, rfl⟩ := contains_iff_exists.1 hu
    by_contra hnot
    refine hnone _ (mem_presence.2 (.inr ⟨a, mem_without.2 ⟨ha, fun b hb hu => ?_⟩, rfl⟩))
    exact hnot (contains_iff_exists.2 ⟨b, hb, hu⟩)
  · obtain ⟨a, ha, rfl⟩ := contains_iff_exists.1 hu
    by_contra hnot
    refine hnone _ (mem_presence.2 (.inl ⟨a, mem_without.2 ⟨ha, fun b hb hu => ?_⟩, rfl⟩))
    exact hnot (contains_iff_exists.2 ⟨b, hb, hu⟩)

/-- Two tables match when there are no entries for presence and for shared entities. -/
theorem Matches.of_entries_eq_nil {β : Type} {alike : α → α → Prop} {changes : α → α → List β}
    {toChange : β → Change} (halike : ∀ {o n}, changes o n = [] → alike o n) {old new : Table α}
    (hpresence : old.presence new = [])
    (hshared : ((old.shared new).flatMap fun (o, n) =>
      (changes o n).map fun c => Entity.entry n (toChange c)) = []) : old.Matches alike new where
  uids := contains_eq_of_presence_eq_nil hpresence
  entities o ho n hn hu := by
    have hmem : (o, n) ∈ old.shared new := mem_shared.2 ⟨ho, hn, hu⟩
    exact halike (List.map_eq_nil_iff.1 (List.flatMap_eq_nil_iff.1 hshared _ hmem))

end Table

namespace Snapshot

theorem equivalent_of_agrees {old new : Snapshot} (h : old.Agrees new) : Equivalent old new where
  records := .of_agrees AlikeRecords.refl h.records
  enums := .of_agrees AlikeEnums.refl h.enums
  functions := .of_agrees AlikeFunctions.refl h.functions
  globals := .of_agrees AlikeGlobals.refl h.globals

theorem equivalent_of_categories {m : Matching} {old new : Snapshot}
    (h : ∀ c, categoryEntries m old new c = []) : Equivalent old new := by
  obtain ⟨hrecords, hrecords'⟩ := List.append_eq_nil_iff.1 (h .records)
  obtain ⟨henums, henums'⟩ := List.append_eq_nil_iff.1 (h .enums)
  obtain ⟨hglobals, hglobals'⟩ := List.append_eq_nil_iff.1 (h .globals)
  have hfunctions : functionEntries m old new = [] := h .functions
  -- A pair by name would have an entry, so the functions are paired by identifier alone.
  have hpairs : m.pairs old.functions new.functions = [] :=
    pairs_eq_nil_of_no_breaking (by simp [hfunctions])
  simp only [functionEntries, functionPresence_of_pairs_eq_nil hpairs, List.append_eq_nil_iff]
    at hfunctions
  exact {
    records := .of_entries_eq_nil alikeRecords_of_changes_eq_nil hrecords hrecords'
    enums := .of_entries_eq_nil alikeEnums_of_changes_eq_nil henums henums'
    functions := .of_entries_eq_nil alikeFunctions_of_changes_eq_nil hfunctions.1.1 hfunctions.1.2
    globals := .of_entries_eq_nil alikeGlobals_of_changes_eq_nil hglobals hglobals' }

end Snapshot

/-- **A comparison that finds nothing** warrants that the two snapshots are alike in every entity,
whichever way functions are matched. -/
theorem equivalent_of_isEmpty (m : Matching) (old new : Snapshot)
    (h : (Engine.compare { matching := m } old new).isEmpty = true) : Equivalent old new := by
  by_cases hagree : old.Agrees new
  · exact Snapshot.equivalent_of_agrees hagree
  · refine Snapshot.equivalent_of_categories (m := m) fun c => ?_
    have hnone : (Engine.compare { matching := m } old new).entries = [] := by
      simpa [Diff.isEmpty] using h
    refine List.eq_nil_iff_forall_not_mem.2 fun e he => ?_
    have hmem : e ∈ (Engine.compare { matching := m } old new).entries :=
      (Snapshot.mem_compare hagree).2 ⟨⟨c, he⟩, by simp [Engine.ignores]⟩
    exact List.not_mem_nil (hnone ▸ hmem)

/-! ### The same library in another order -/

/-- A union, an enumeration and a virtual function. -/
def variants : Snapshot where
  contents := {
    records := ⟨[{
      uid := ⟨"Variant"⟩, name := "Variant", kind := .union, sizeBits := 64, alignBits := 64
      fields := [⟨"", .ofName "int", 0, some 3, .everyone⟩,
        ⟨"number", .ofName "long", 0, none, .everyone⟩,
        ⟨"", .ofName "char", 8, some 5, .owner⟩] }], by decide⟩
    enums := ⟨[{
      uid := ⟨"Tag"⟩, name := "Tag", underlying := .ofName "int"
      enumerators := [⟨"none", .signed 0⟩, ⟨"some", .signed 1⟩] }], by decide⟩
    functions := ⟨[{
      uid := ⟨"visit(int)"⟩, name := "visit", result := .ofName "void"
      parameters := [.ofName "int"], dispatch := some ⟨2, true⟩ }], by decide⟩
    globals := .empty }
  sound := by decide

/-- The same with members in another order and one value reported with another signedness. -/
def variantsReordered : Snapshot where
  contents := {
    records := ⟨[{
      uid := ⟨"Variant"⟩, name := "Variant", kind := .union, sizeBits := 64, alignBits := 64
      fields := [⟨"", .ofName "char", 8, some 5, .owner⟩,
        ⟨"", .ofName "int", 0, some 3, .everyone⟩,
        ⟨"number", .ofName "long", 0, none, .everyone⟩] }], by decide⟩
    enums := ⟨[{
      uid := ⟨"Tag"⟩, name := "Tag", underlying := .ofName "int"
      enumerators := [⟨"some", .unsigned 1⟩, ⟨"none", .signed 0⟩] }], by decide⟩
    functions := ⟨[{
      uid := ⟨"visit(int)"⟩, name := "visit", result := .ofName "void"
      parameters := [.ofName "int"], dispatch := some ⟨2, true⟩ }], by decide⟩
    globals := .empty }
  sound := by decide

theorem isEmpty_compare_variantsReordered :
    (Engine.compare { matching := .byName } variants variantsReordered).isEmpty = true := by
  simp only [Engine.compare, Snapshot.compare_eq_insertionSort, Snapshot.recordEntries,
    Record.changes, Record.layoutChanges, RecordChange.ofFieldLists,
    FieldPairing.ofFields_eq_insertionSort]
  decide +kernel

theorem equivalent_variantsReordered :
    (Engine.compare { matching := .byName } variants variantsReordered).isEmpty = true ∧
      (variants == variantsReordered) = false ∧ Equivalent variants variantsReordered :=
  ⟨isEmpty_compare_variantsReordered, by decide +kernel,
    equivalent_of_isEmpty .byName _ _ isEmpty_compare_variantsReordered⟩

end HeaderAbi
