import HeaderAbi.Proofs.Diff.Compare
import HeaderAbi.Proofs.Diff.FieldPairing
import HeaderAbi.Proofs.Diff.Summary

/-!
# A comparison without breaking entries

`CanReplace old new` says that what binaries built against `old` rely on is still there in `new`:
visible entities, layouts of complete records, numbers of enumerators, calls of functions and types
of variables.  **A comparison that holds no breaking entry warrants it**
(`canReplace_of_no_breaking`).

Each list of changes is read as the conditions under which it holds nothing breaking: `LayoutKept`
for records, `EnumeratorsKept`, `CallKept` and `VariableKept` for the other categories.  The map
from old to new fields is made of the pairs of equal names and of the renamed pairs.
-/

namespace HeaderAbi

/-! ### What is kept -/

/-- A complete record keeps its layout.  Every old field has a new one of its own that lies where it
lay. -/
structure LayoutKept (old new : Record) : Prop where
  kind : new.kind = old.kind
  size : new.sizeBits = old.sizeBits
  alignment : new.alignBits = old.alignBits
  bases : new.bases = old.bases
  vtable : new.vtable = old.vtable
  fields : ∃ place : Fin old.fields.length → Fin new.fields.length, Function.Injective place ∧
    ∀ i, new.fields[place i].offsetBits = old.fields[i].offsetBits ∧
      new.fields[place i].bitWidth = old.fields[i].bitWidth ∧
      new.fields[place i].type = old.fields[i].type

/-- An enumeration keeps its integer type and the number of every enumerator. -/
structure EnumeratorsKept (old new : EnumType) : Prop where
  underlying : new.underlying = old.underlying
  values : ∀ e ∈ old.enumerators, ∃ e' ∈ new.enumerators,
    e'.name = e.name ∧ e'.value.toInt = e.value.toInt

/-- A function is called as before, and by whoever could call it. -/
structure CallKept (old new : Function) : Prop where
  result : new.result = old.result
  parameters : new.parameters = old.parameters
  variadic : new.variadic = old.variadic
  convention : new.convention = old.convention
  isVirtual : new.isVirtual = old.isVirtual
  vtableIndex : new.dispatch.map (·.vtableIndex) = old.dispatch.map (·.vtableIndex)
  visible : old.linkage.isVisible = true → new.linkage.isVisible = true

/-- A variable has the same type and is seen by whoever could see it. -/
structure VariableKept (old new : GlobalVar) : Prop where
  type : new.type = old.type
  visible : old.linkage.isVisible = true → new.linkage.isVisible = true

/-- Binaries built against `old` find in `new` what they rely on. -/
structure CanReplace (old new : Snapshot) : Prop where
  records : ∀ r ∈ old.records.entries, new.records.contains r.uid = true
  enums : ∀ e ∈ old.enums.entries, new.enums.contains e.uid = true
  functions : ∀ f ∈ old.functions.entries, f.linkage.isVisible = true →
    new.functions.contains f.uid = true
  globals : ∀ g ∈ old.globals.entries, g.linkage.isVisible = true →
    new.globals.contains g.uid = true
  layoutsKept : ∀ o ∈ old.records.entries, ∀ n ∈ new.records.entries, n.uid = o.uid →
    o.isOpaque = false → n.isOpaque = false → LayoutKept o n
  enumeratorsKept : ∀ o ∈ old.enums.entries, ∀ n ∈ new.enums.entries, n.uid = o.uid →
    EnumeratorsKept o n
  callsKept : ∀ o ∈ old.functions.entries, ∀ n ∈ new.functions.entries, n.uid = o.uid → CallKept o n
  variablesKept : ∀ o ∈ old.globals.entries, ∀ n ∈ new.globals.entries, n.uid = o.uid →
    VariableKept o n

theorem LayoutKept.refl (r : Record) : LayoutKept r r :=
  ⟨rfl, rfl, rfl, rfl, rfl, id, Function.injective_id, fun _ => ⟨rfl, rfl, rfl⟩⟩

theorem EnumeratorsKept.refl (e : EnumType) : EnumeratorsKept e e :=
  ⟨rfl, fun a ha => ⟨a, ha, rfl, rfl⟩⟩

theorem CallKept.refl (f : Function) : CallKept f f := ⟨rfl, rfl, rfl, rfl, rfl, rfl, id⟩

theorem VariableKept.refl (g : GlobalVar) : VariableKept g g := ⟨rfl, id⟩

/-! ### Changes that break nothing -/

/-- No change of a list breaks binaries. -/
def Harmless {β : Type} (toChange : β → Change) (cs : List β) : Prop :=
  ∀ c ∈ cs, (toChange c).impact ≠ .breaking

@[simp]
theorem harmless_append {β : Type} {toChange : β → Change} {cs ds : List β} :
    Harmless toChange (cs ++ ds) ↔ Harmless toChange cs ∧ Harmless toChange ds := by
  simp [Harmless, or_imp, forall_and]

@[simp]
theorem harmless_if {β : Type} {toChange : β → Change} {p : Prop} [Decidable p] {c : β} :
    Harmless toChange (if p then [c] else []) ↔ (p → (toChange c).impact ≠ .breaking) := by
  by_cases h : p <;> simp [Harmless, h]

/-- What a breaking change would report has not changed. -/
theorem eq_of_not_breaking {β : Type} {a b : β} {c : Change} (hc : c.impact = .breaking)
    (h : a ≠ b → c.impact ≠ .breaking) : b = a := by
  by_contra hne
  exact h (Ne.symm hne) hc

/-! ### Records -/

namespace RecordChange

theorem harmless_ofFields {o n : Field} :
    Harmless toChange (ofFields o n) ↔
      n.offsetBits = o.offsetBits ∧ n.bitWidth = o.bitWidth ∧ n.type = o.type := by
  simp only [ofFields, when, harmless_append, harmless_if]
  simp [toChange, ofField, eq_comm, and_assoc]

/-- **Without breaking changes every old field has a new one of its own** that lies where it lay.
The pairs of one name and the renamed ones together use every old field and no new field twice. -/
theorem exists_place_of_harmless {old new : List Field}
    (h : Harmless toChange (ofFieldLists old new)) :
    ∃ place : Fin old.length → Fin new.length, Function.Injective place ∧
      ∀ i, new[place i].offsetBits = old[i].offsetBits ∧ new[place i].bitWidth = old[i].bitWidth ∧
        new[place i].type = old[i].type := by
  set p := FieldPairing.ofFields old new with hp
  simp only [ofFieldLists, harmless_append, ← hp] at h
  obtain ⟨⟨⟨hmatched, -⟩, hremoved⟩, -⟩ := h
  -- A field without partner would be removed, which breaks.
  have hnone : p.renamings.2.1 = [] := by
    refine List.eq_nil_iff_forall_not_mem.2 fun o ho => ?_
    exact hremoved _ (List.mem_map_of_mem ho) rfl
  set pairs := p.matched ++ p.renamings.1 with hpairs
  have hold : (pairs.map Prod.fst).Perm (FieldPairing.place old) := by
    have hr := FieldPairing.renamings_perm_old p
    rw [hnone, List.append_nil] at hr
    rw [hpairs, List.map_append]
    exact (hr.append_left _).trans (FieldPairing.ofFields_perm_old old new)
  have hnew : (pairs.map Prod.snd ++ p.renamings.2.2).Perm (FieldPairing.place new) := by
    rw [hpairs, List.map_append, List.append_assoc]
    exact ((FieldPairing.renamings_perm_new p).append_left _).trans
      (FieldPairing.ofFields_perm_new old new)
  have hnodup : (pairs.map Prod.snd).Nodup :=
    (hnew.nodup_iff.2 (FieldPairing.place_nodup new)).of_append_left
  have hkept : ∀ q ∈ pairs, q.2.field.offsetBits = q.1.field.offsetBits ∧
      q.2.field.bitWidth = q.1.field.bitWidth ∧ q.2.field.type = q.1.field.type := by
    rintro ⟨o, n⟩ hq
    rcases List.mem_append.1 hq with hq | hq
    · refine harmless_ofFields.1 fun c hc => hmatched c ?_
      exact List.mem_flatMap.2 ⟨(o, n), hq, hc⟩
    · exact FieldPairing.mem_renamings hq
  have hpartner : ∀ i : Fin old.length, ∃ j : Fin new.length,
      ((⟨i, old[i]⟩, ⟨j, new[j]⟩) : Placed × Placed) ∈ pairs := by
    intro i
    have hi : (⟨i, old[i]⟩ : Placed) ∈ pairs.map Prod.fst :=
      hold.mem_iff.2 (FieldPairing.mem_place.2 (List.getElem?_eq_getElem i.2))
    obtain ⟨⟨o, ⟨j, f⟩⟩, hq, rfl⟩ := List.mem_map.1 hi
    have hj : new[j]? = some f := FieldPairing.mem_place.1
      (hnew.mem_iff.1 (List.mem_append_left _ (List.mem_map_of_mem hq)))
    obtain ⟨hlt, rfl⟩ := List.getElem?_eq_some_iff.1 hj
    exact ⟨⟨j, hlt⟩, hq⟩
  choose place hplace using hpartner
  refine ⟨place, fun i i' hii => ?_, fun i => hkept _ (hplace i)⟩
  have := List.inj_on_of_nodup_map hnodup (hplace i) (hplace i') (by rw [hii])
  exact Fin.ext (congrArg (fun q : Placed × Placed => q.1.index) this)

end RecordChange

theorem layoutKept_of_harmless {o n : Record} (ho : o.isOpaque = false) (hn : n.isOpaque = false)
    (h : Harmless RecordChange.toChange (o.changes n)) : LayoutKept o n := by
  simp only [Record.changes, ho, hn, Record.layoutChanges, RecordChange.when, harmless_append,
    harmless_if] at h
  obtain ⟨-, ⟨⟨⟨⟨hkind, hsize⟩, halign⟩, hbases⟩, hfields⟩, hvtable⟩ := h
  exact ⟨eq_of_not_breaking rfl hkind, eq_of_not_breaking rfl hsize, eq_of_not_breaking rfl halign,
    eq_of_not_breaking rfl hbases, eq_of_not_breaking rfl hvtable,
    RecordChange.exists_place_of_harmless hfields⟩

/-! ### Enumerations -/

theorem enumeratorsKept_of_harmless {o n : EnumType}
    (h : Harmless EnumChange.toChange (o.changes n)) : EnumeratorsKept o n := by
  simp only [EnumType.changes, harmless_append, harmless_if] at h
  obtain ⟨⟨hunderlying, hvalues⟩, -⟩ := h
  refine ⟨eq_of_not_breaking rfl hunderlying, fun e he => ?_⟩
  have hchange : Harmless EnumChange.toChange (n.enumeratorChanges e) :=
    fun c hc => hvalues c (List.mem_flatMap.2 ⟨e, he, hc⟩)
  rw [EnumType.enumeratorChanges] at hchange
  split at hchange
  · exact absurd rfl (hchange _ (List.mem_singleton_self _))
  · next e' he' =>
    refine ⟨e', List.mem_of_find?_eq_some he', by simpa using List.find?_some he', ?_⟩
    by_contra hne
    exact hchange _ (by rw [if_neg hne]; exact List.mem_singleton_self _) rfl

/-! ### Functions and variables -/

/-- A symbol does not disappear unless its change of linkage is breaking. -/
theorem isVisible_of_linkageImpact {o n : Linkage} (h : o ≠ n → linkageImpact o n ≠ .breaking)
    (ho : o.isVisible = true) : n.isVisible = true := by
  cases o <;> cases n <;> simp_all [linkageImpact, Linkage.isVisible]

namespace FunctionChange

theorem parameters_eq_of_harmless {os ns : List TypeRef}
    (h : Harmless toChange (ofParameters os ns)) : ns = os := by
  rw [ofParameters] at h
  split at h
  · next hlen =>
    refine List.ext_getElem hlen.symm fun i hn ho => ?_
    have hmem : ((os[i], ns[i]), i) ∈ (os.zip ns).zipIdx := by
      rw [List.mk_mem_zipIdx_iff_getElem?, List.getElem?_eq_getElem (by simp; omega),
        List.getElem_zip]
    have hi : Harmless toChange (when (os[i] ≠ ns[i]) (.parameter i os[i] ns[i])) :=
      fun c hc => h c (List.mem_flatMap.2 ⟨_, hmem, hc⟩)
    exact eq_of_not_breaking rfl (harmless_if.1 hi)
  · exact absurd rfl (h _ (List.mem_singleton_self _))

theorem dispatch_of_harmless {o n : Option Dispatch} (h : Harmless toChange (ofDispatch o n)) :
    n.isSome = o.isSome ∧ n.map (·.vtableIndex) = o.map (·.vtableIndex) := by
  rcases o with _ | o <;> rcases n with _ | n
  · exact ⟨rfl, rfl⟩
  · exact absurd rfl (h _ (List.mem_singleton_self _))
  · exact absurd rfl (h _ (List.mem_singleton_self _))
  · simp only [ofDispatch, when, harmless_append, harmless_if] at h
    exact ⟨rfl, congrArg some (eq_of_not_breaking rfl h.1)⟩

end FunctionChange

theorem callKept_of_harmless {o n : Function}
    (h : Harmless FunctionChange.toChange (o.changes n)) : CallKept o n := by
  simp only [Function.changes, FunctionChange.when, harmless_append, harmless_if] at h
  obtain ⟨⟨⟨⟨⟨⟨hresult, hparameters⟩, hvariadic⟩, hconvention⟩, hlinkage⟩, hdispatch⟩, -⟩ := h
  obtain ⟨hvirtual, hindex⟩ := FunctionChange.dispatch_of_harmless hdispatch
  exact ⟨eq_of_not_breaking rfl hresult, FunctionChange.parameters_eq_of_harmless hparameters,
    eq_of_not_breaking rfl hvariadic, eq_of_not_breaking rfl hconvention, hvirtual, hindex,
    isVisible_of_linkageImpact hlinkage⟩

theorem variableKept_of_harmless {o n : GlobalVar}
    (h : Harmless GlobalChange.toChange (o.changes n)) : VariableKept o n := by
  simp only [GlobalVar.changes, harmless_append, harmless_if] at h
  exact ⟨eq_of_not_breaking rfl h.1, isVisible_of_linkageImpact h.2⟩

/-! ### Snapshots -/

namespace Table

variable {α : Type} [Entity α]

/-- An entity that others could see stays when no entry for its absence is breaking. -/
theorem contains_of_presence {old new : Table α}
    (h : ∀ e ∈ old.presence new, e.isBreaking = false) {a : α} (ha : a ∈ old.entries)
    (hv : Entity.isVisible a = true) : new.contains (Entity.uid a) = true := by
  by_contra hnot
  have hgone : a ∈ old.without new := mem_without.2 ⟨ha, fun b hb hu =>
    hnot (contains_iff_exists.2 ⟨b, hb, hu⟩)⟩
  have := h _ (mem_presence.2 (.inl ⟨a, hgone, rfl⟩))
  rw [Entity.isBreaking_removal, hv] at this
  exact absurd this (by decide)

end Table

namespace Snapshot

/-- Functions are paired by name only together with a breaking entry. -/
theorem pairs_eq_nil_of_no_breaking {m : Matching} {old new : Snapshot}
    (h : ∀ e ∈ functionEntries m old new, e.isBreaking = false) :
    m.pairs old.functions new.functions = [] := by
  refine List.eq_nil_iff_forall_not_mem.2 fun ⟨o, n⟩ hp => ?_
  have := h (Entity.entry n (FunctionChange.signature o.uid n.uid).toChange)
    (List.mem_append_right _ (List.mem_flatMap.2 ⟨(o, n), hp, List.mem_map_of_mem (by simp)⟩))
  simp [FunctionChange.toChange, FunctionChange.of] at this

theorem functionPresence_of_pairs_eq_nil {m : Matching} {old new : Snapshot}
    (h : m.pairs old.functions new.functions = []) :
    functionPresence m old new = old.functions.presence new.functions := by
  rw [functionPresence, h]
  refine List.filter_eq_self.2 fun e _ => ?_
  simp only [List.any_nil, Bool.not_false]
  cases e.kind <;> rfl

theorem canReplace_of_agrees {old new : Snapshot} (h : old.Agrees new) : CanReplace old new where
  records _ hr := Table.contains_of_mem (h.records.mem_iff.1 hr)
  enums _ he := Table.contains_of_mem (h.enums.mem_iff.1 he)
  functions _ hf _ := Table.contains_of_mem (h.functions.mem_iff.1 hf)
  globals _ hg _ := Table.contains_of_mem (h.globals.mem_iff.1 hg)
  layoutsKept _ ho n hn hu _ _ :=
    Table.eq_of_uid_eq hn (h.records.mem_iff.1 ho) hu ▸ LayoutKept.refl n
  enumeratorsKept _ ho n hn hu :=
    Table.eq_of_uid_eq hn (h.enums.mem_iff.1 ho) hu ▸ EnumeratorsKept.refl n
  callsKept _ ho n hn hu := Table.eq_of_uid_eq hn (h.functions.mem_iff.1 ho) hu ▸ CallKept.refl n
  variablesKept _ ho n hn hu :=
    Table.eq_of_uid_eq hn (h.globals.mem_iff.1 ho) hu ▸ VariableKept.refl n

/-- The changes of a shared entity are harmless when its entries are. -/
theorem harmless_of_shared {α β : Type} [Entity α] {old new : Table α} {o n : α}
    {changes : α → α → List β} {toChange : β → Change}
    (h : ∀ e ∈ (old.shared new).flatMap fun (o, n) =>
      (changes o n).map fun c => Entity.entry n (toChange c), e.isBreaking = false)
    (ho : o ∈ old.entries) (hn : n ∈ new.entries) (hu : Entity.uid n = Entity.uid o) :
    Harmless toChange (changes o n) := by
  intro c hc
  have hmem : (o, n) ∈ old.shared new := Table.mem_shared.2 ⟨ho, hn, hu⟩
  simpa using h _ (List.mem_flatMap.2 ⟨(o, n), hmem, List.mem_map_of_mem hc⟩)

theorem canReplace_of_categories {m : Matching} {old new : Snapshot}
    (h : ∀ c, ∀ e ∈ categoryEntries m old new c, e.isBreaking = false) : CanReplace old new := by
  have hrecords := h .records
  have henums := h .enums
  have hfunctions := h .functions
  have hglobals := h .globals
  simp only [categoryEntries, recordEntries, enumEntries, globalEntries, List.mem_append, or_imp,
    forall_and] at hrecords henums hglobals
  have hpairs := pairs_eq_nil_of_no_breaking hfunctions
  simp only [categoryEntries, functionEntries, functionPresence_of_pairs_eq_nil hpairs,
    List.mem_append, or_imp, forall_and] at hfunctions
  exact {
    records := fun r hr => Table.contains_of_presence hrecords.1 hr rfl
    enums := fun e he => Table.contains_of_presence henums.1 he rfl
    functions := fun f hf hv => Table.contains_of_presence hfunctions.1.1 hf hv
    globals := fun g hg hv => Table.contains_of_presence hglobals.1 hg hv
    layoutsKept := fun o ho n hn hu hoo hno =>
      layoutKept_of_harmless hoo hno (harmless_of_shared hrecords.2 ho hn hu)
    enumeratorsKept := fun o ho n hn hu =>
      enumeratorsKept_of_harmless (harmless_of_shared henums.2 ho hn hu)
    callsKept := fun o ho n hn hu =>
      callKept_of_harmless (harmless_of_shared hfunctions.1.2 ho hn hu)
    variablesKept := fun o ho n hn hu =>
      variableKept_of_harmless (harmless_of_shared hglobals.2 ho hn hu) }

end Snapshot

/-- **A comparison without breaking entries is sound**: whichever way functions are matched, what
binaries built against the old snapshot rely on is kept. -/
theorem canReplace_of_no_breaking (m : Matching) (old new : Snapshot)
    (h : (Engine.compare { matching := m } old new).hasBreaking = false) : CanReplace old new := by
  by_cases hagree : old.Agrees new
  · exact Snapshot.canReplace_of_agrees hagree
  · refine Snapshot.canReplace_of_categories (m := m) fun c e he => ?_
    have hnone : ∀ e ∈ (Engine.compare { matching := m } old new).entries,
        e.isBreaking = false := by
      simpa [← Bool.not_eq_true, Diff.hasBreaking_iff] using h
    exact hnone e ((Snapshot.mem_compare hagree).2 ⟨⟨c, he⟩, by simp [Engine.ignores]⟩)

/-! ### A library that grows -/

/-- A record with an unnamed bit-field, an enumeration and a function of internal linkage. -/
def shapes : Snapshot where
  contents := {
    records := ⟨[{
      uid := ⟨"Shape"⟩, name := "Shape", sizeBits := 64, alignBits := 32
      fields := [⟨"kind", .ofName "int", 0, none, .everyone⟩,
        ⟨"", .ofName "char", 32, some 3, .everyone⟩] }], by decide⟩
    enums := ⟨[{
      uid := ⟨"Color"⟩, name := "Color", underlying := .ofName "int"
      enumerators := [⟨"red", .signed 1⟩] }], by decide⟩
    functions := ⟨[{
      uid := ⟨"trace()"⟩, name := "trace", result := .ofName "void", linkage := .internal }],
      by decide⟩
    globals := .empty }
  sound := by decide

/-- The same library with a renamed field, a field in free room, one more enumerator and without
the internal function. -/
def shapesGrown : Snapshot where
  contents := {
    records := ⟨[{
      uid := ⟨"Shape"⟩, name := "Shape", sizeBits := 64, alignBits := 32
      fields := [⟨"tag", .ofName "int", 0, none, .everyone⟩,
        ⟨"", .ofName "char", 32, some 3, .everyone⟩,
        ⟨"depth", .ofName "char", 40, none, .everyone⟩] }], by decide⟩
    enums := ⟨[{
      uid := ⟨"Color"⟩, name := "Color", underlying := .ofName "int"
      enumerators := [⟨"green", .signed 2⟩, ⟨"red", .unsigned 1⟩] }], by decide⟩
    functions := .empty
    globals := .empty }
  sound := by decide

theorem hasBreaking_shapesGrown :
    (Engine.compare { matching := .byName } shapes shapesGrown).hasBreaking = false := by
  simp only [Engine.compare, Snapshot.compare_eq_insertionSort, Snapshot.recordEntries,
    Record.changes, Record.layoutChanges, RecordChange.ofFieldLists,
    FieldPairing.ofFields_eq_insertionSort]
  decide +kernel

theorem canReplace_shapesGrown :
    (Engine.compare { matching := .byName } shapes shapesGrown).hasBreaking = false ∧
      CanReplace shapes shapesGrown :=
  ⟨hasBreaking_shapesGrown, canReplace_of_no_breaking .byName _ _ hasBreaking_shapesGrown⟩

end HeaderAbi
