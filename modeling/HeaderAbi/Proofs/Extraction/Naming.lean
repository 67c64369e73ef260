import HeaderAbi.Proofs.Extraction.Order
import HeaderAbi.Proofs.TypeRef.FunctionTypes
import Mathlib.Data.List.DropRight

/-!
# The identifiers of extracted entities

Two snapshots are compared by the identifiers of their entities, so an identifier must say what it
is the identifier of.  An extracted entity goes by its name, its template arguments and its
parameters (`Item.Keyed`), and a function type by its signature, at any depth of nesting
(`TypeRef.SpelledOut`).

Each mapping of a declaration makes such an entity (`Declaration.keyed_of_toItem`).  Neither the
records that wait for a definition nor a merge change an entity, so everything in a snapshot of one
unit or of many is such an entity (`Facts.keyed_of_extract`).
-/

namespace HeaderAbi

/-! ### Names without blanks around them -/

namespace Text

/-- There is no blank at either end of the text. -/
structure IsTrimmed (s : String) : Prop where
  head : ∀ c ∈ s.toList.head?, isBlank c = false
  last : ∀ c ∈ s.toList.getLast?, isBlank c = false

theorem toList_trim (s : String) :
    (trim s).toList = (s.toList.dropWhile isBlank).rdropWhile isBlank := by
  rw [trim, String.toList_ofList, trimChars, List.rdropWhile]

theorem isTrimmed_trim (s : String) : IsTrimmed (trim s) where
  head c hc := by
    rw [toList_trim] at hc
    have hfront : c ∈ (s.toList.dropWhile isBlank).head? := by
      obtain ⟨rest, hrest⟩ := List.rdropWhile_prefix isBlank (l := s.toList.dropWhile isBlank)
      rw [← hrest, List.head?_append, Option.mem_def.1 hc]
      rfl
    have hstop := List.head?_dropWhile_not isBlank s.toList
    rwa [Option.mem_def.1 hfront] at hstop
  last c hc := by
    rw [toList_trim] at hc
    have hne : (s.toList.dropWhile isBlank).rdropWhile isBlank ≠ [] := by
      intro hnil
      rw [hnil] at hc
      cases hc
    have hlast := List.rdropWhile_last_not isBlank _ hne
    rw [List.getLast?_eq_some_getLast hne, Option.mem_some_iff] at hc
    rwa [hc, Bool.not_eq_true] at hlast

theorem IsTrimmed.trim_eq {s : String} (h : IsTrimmed s) : trim s = s := by
  have hfront : s.toList.dropWhile isBlank = s.toList := by
    cases hs : s.toList with
    | nil => rfl
    | cons c cs => rw [List.dropWhile_cons, h.head c (by rw [hs]; rfl)]; rfl
  rw [← String.toList_inj, toList_trim, hfront, List.rdropWhile_eq_self_iff]
  intro hne hblank
  rw [h.last _ (List.getLast?_eq_some_getLast hne)] at hblank
  cases hblank

@[simp]
theorem trim_trim (s : String) : trim (trim s) = trim s :=
  (isTrimmed_trim s).trim_eq

end Text

/-! ### Entities that go by what they are -/

/-- The template arguments of a record; a plain one has none. -/
def TemplateOrigin.arguments : TemplateOrigin → List String
  | .plain => []
  | .instantiation _ arguments => arguments

/-- A record goes by its name and its template arguments. -/
structure Record.Keyed (r : Record) : Prop where
  trimmed : Text.IsTrimmed r.name
  uid_eq : r.uid = .ofInstantiation r.name r.template.arguments
  spelledOut : ∀ f ∈ r.fields, f.type.SpelledOut

/-- An enumeration goes by its name. -/
structure EnumType.Keyed (e : EnumType) : Prop where
  trimmed : Text.IsTrimmed e.name
  uid_eq : e.uid.text = e.name
  spelledOut : e.underlying.SpelledOut

/-- A function goes by its name and the spellings of its parameters. -/
structure Function.Keyed (f : Function) : Prop where
  trimmed : Text.IsTrimmed f.name
  uid_eq : f.uid = uidFor f.name f.parameters f.variadic
  spelledOut : ∀ t ∈ f.types, t.SpelledOut

/-- A variable goes by its name. -/
structure GlobalVar.Keyed (g : GlobalVar) : Prop where
  trimmed : Text.IsTrimmed g.name
  uid_eq : g.uid.text = g.name
  spelledOut : g.type.SpelledOut

/-- An entity goes by what it is. -/
def Item.Keyed : Item → Prop
  | .record r => r.Keyed
  | .enum e => e.Keyed
  | .function f => f.Keyed
  | .global g => g.Keyed

/-- Every entity of the snapshot goes by what it is. -/
structure Snapshot.Keyed (s : Snapshot) : Prop where
  records : ∀ r ∈ s.records.entries, r.Keyed
  enums : ∀ e ∈ s.enums.entries, e.Keyed
  functions : ∀ f ∈ s.functions.entries, f.Keyed
  globals : ∀ g ∈ s.globals.entries, g.Keyed

theorem Snapshot.keyed_iff {s : Snapshot} : s.Keyed ↔ ∀ i ∈ s.contents.items, i.Keyed := by
  constructor
  · rintro ⟨hr, he, hf, hg⟩ (r | e | f | g) hi
    · exact hr r (Contents.record_mem_items.1 hi)
    · exact he e (Contents.enum_mem_items.1 hi)
    · exact hf f (Contents.function_mem_items.1 hi)
    · exact hg g (Contents.global_mem_items.1 hi)
  · intro h
    exact ⟨fun r hr => h (.record r) (Contents.record_mem_items.2 hr),
      fun e he => h (.enum e) (Contents.enum_mem_items.2 he),
      fun f hf => h (.function f) (Contents.function_mem_items.2 hf),
      fun g hg => h (.global g) (Contents.global_mem_items.2 hg)⟩

/-! ### Mapped declarations -/

theorem Except.exists_of_mem_mapM {ε α β : Type} {f : α → Except ε β} {as : List α}
    {bs : List β} (h : as.mapM f = .ok bs) {b : β} (hb : b ∈ bs) : ∃ a ∈ as, f a = .ok b := by
  induction as generalizing bs with
  | nil =>
    cases h
    cases hb
  | cons a as ih =>
    rw [List.mapM_cons, Except.bind_eq_ok_iff] at h
    obtain ⟨b', hb', h⟩ := h
    obtain ⟨bs', hbs', h⟩ := Except.bind_eq_ok_iff.1 h
    cases h
    obtain rfl | hb := List.mem_cons.1 hb
    · exact ⟨a, List.mem_cons_self, hb'⟩
    · obtain ⟨a', ha', hfa⟩ := ih hbs' hb
      exact ⟨a', List.mem_cons_of_mem a ha', hfa⟩

namespace Extraction

variable {unit owner : String}

mutual

/-- **A mapped use** has function types that go by their spelling. -/
theorem spelledOut_of_typeRef : ∀ {fact : TypeFact} {t : TypeRef},
    typeRef unit owner fact = .ok t → t.SpelledOut
  | .named s, t, h => by
    rw [typeRef, Except.bind_eq_ok_iff] at h
    obtain ⟨uid, -, h⟩ := h
    cases h
    exact TypeRef.spelledOut_named _
  | .function s result parameters variadic convention, t, h => by
    rw [typeRef, Except.bind_eq_ok_iff] at h
    obtain ⟨r, hr, h⟩ := h
    obtain ⟨ps, hps, h⟩ := Except.bind_eq_ok_iff.1 h
    cases h
    exact TypeRef.spelledOut_function_iff.2
      ⟨rfl, spelledOut_of_typeRef hr, spelledOut_of_typeRefs hps⟩

theorem spelledOut_of_typeRefs : ∀ {facts : List TypeFact} {ts : List TypeRef},
    typeRefs unit owner facts = .ok ts → ∀ t ∈ ts, t.SpelledOut
  | [], ts, h => by
    cases h
    exact List.forall_mem_nil _
  | fact :: facts, ts, h => by
    rw [typeRefs, Except.bind_eq_ok_iff] at h
    obtain ⟨t, ht, h⟩ := h
    obtain ⟨ts', hts, h⟩ := Except.bind_eq_ok_iff.1 h
    cases h
    exact List.forall_mem_cons.2 ⟨spelledOut_of_typeRef ht, spelledOut_of_typeRefs hts⟩

end

theorem spelledOut_of_field {fact : FieldFact} {f : Field}
    (h : field unit owner fact = .ok f) : f.type.SpelledOut := by
  rw [field] at h
  split at h
  · cases h
  · obtain ⟨t, ht, h⟩ := Except.bind_eq_ok_iff.1 h
    cases h
    exact spelledOut_of_typeRef ht

theorem keyed_of_record {fact : RecordFact} {r : Record} (h : record unit fact = .ok r) :
    r.Keyed := by
  obtain ⟨-, -, h⟩ := Except.bind_eq_ok_iff.1 h
  -- a record without arguments is plain, and gets no arguments back from that
  have huid (arguments : List String) : Uid.ofInstantiation fact.name arguments =
      .ofInstantiation (Text.trim fact.name) (if arguments.isEmpty then .plain else
        TemplateOrigin.instantiation (Text.trim fact.name) arguments).arguments := by
    cases arguments <;> simp [Uid.ofInstantiation, Uid.ofName, TemplateOrigin.arguments]
  dsimp only at h
  split at h
  · cases h
    exact ⟨Text.isTrimmed_trim _, huid _, List.forall_mem_nil _⟩
  · obtain ⟨bases, -, h⟩ := Except.bind_eq_ok_iff.1 h
    obtain ⟨fields, hfields, h⟩ := Except.bind_eq_ok_iff.1 h
    obtain ⟨vtable, -, h⟩ := Except.bind_eq_ok_iff.1 h
    cases h
    refine ⟨Text.isTrimmed_trim _, huid _, fun f hf => ?_⟩
    obtain ⟨fact', -, hf'⟩ := Except.exists_of_mem_mapM hfields hf
    exact spelledOut_of_field hf'

theorem keyed_of_enumeration {fact : EnumFact} {e : EnumType}
    (h : enumeration unit fact = .ok e) : e.Keyed := by
  obtain ⟨-, -, h⟩ := Except.bind_eq_ok_iff.1 h
  have hrest {underlying : TypeRef} (hu : underlying.SpelledOut) (h : (do
      let enumerators ← fact.enumerators.mapM (enumerator unit fact.name)
      return ({ uid := .ofName fact.name, name := Text.trim fact.name, underlying, enumerators } :
        EnumType)) = .ok e) : e.Keyed := by
    obtain ⟨enumerators, -, h⟩ := Except.bind_eq_ok_iff.1 h
    cases h
    exact ⟨Text.isTrimmed_trim _, rfl, hu⟩
  split at h
  · obtain ⟨underlying, hu, h⟩ := Except.bind_eq_ok_iff.1 h
    exact hrest (spelledOut_of_typeRef hu) h
  · exact hrest (TypeRef.spelledOut_named _) h

theorem keyed_of_function {fact : FunctionFact} {f : Function}
    (h : function unit fact = .ok f) : f.Keyed := by
  obtain ⟨-, -, h⟩ := Except.bind_eq_ok_iff.1 h
  obtain ⟨parameters, hps, h⟩ := Except.bind_eq_ok_iff.1 h
  have hrest {parent : Option Uid} (h : (do
      let result ← typeRef unit fact.name fact.result
      return ({
        uid := Function.uidFor fact.name parameters fact.variadic, name := Text.trim fact.name,
        result, parameters, variadic := fact.variadic, convention := conventionOf fact.convention,
        linkage := fact.linkage, access := fact.access, dispatch := fact.dispatch, parent } :
          Function)) = .ok f) : f.Keyed := by
    obtain ⟨result, hr, h⟩ := Except.bind_eq_ok_iff.1 h
    cases h
    refine ⟨Text.isTrimmed_trim _, ?_, ?_⟩
    · simp [Function.uidFor, Uid.ofFunction]
    · exact List.forall_mem_cons.2 ⟨spelledOut_of_typeRef hr, spelledOut_of_typeRefs hps⟩
  dsimp only at h
  split at h
  · obtain ⟨uid, -, h⟩ := Except.bind_eq_ok_iff.1 h
    obtain ⟨parent, -, h⟩ := Except.bind_eq_ok_iff.1 h
    split at h
    · cases h
    · exact hrest h
  · obtain ⟨parent, -, h⟩ := Except.bind_eq_ok_iff.1 h
    split at h
    · cases h
    · exact hrest h

theorem keyed_of_global {fact : VariableFact} {g : GlobalVar}
    (h : global unit fact = .ok g) : g.Keyed := by
  obtain ⟨-, -, h⟩ := Except.bind_eq_ok_iff.1 h
  obtain ⟨type, ht, h⟩ := Except.bind_eq_ok_iff.1 h
  cases h
  exact ⟨Text.isTrimmed_trim _, rfl, spelledOut_of_typeRef ht⟩

end Extraction

open Extraction in
/-- **A declaration stands for an entity that goes by what it is.** -/
theorem Declaration.keyed_of_toItem {unit : String} {d : Declaration} {i : Item}
    (h : d.toItem unit = .ok i) : i.Keyed := by
  cases d <;> obtain ⟨x, hx, hi⟩ := Except.bind_eq_ok_iff.1 h <;> cases hi
  case record => exact keyed_of_record hx
  case enum => exact keyed_of_enumeration hx
  case function => exact keyed_of_function hx
  case «variable» => exact keyed_of_global hx

/-! ### Snapshots -/

namespace Facts

/-- Declarations stand for entities that go by what they are. -/
theorem Declares.keyed {facts : Facts} {unit : String} {items : List Item}
    (h : facts.Declares unit items) : ∀ i ∈ items, i.Keyed := by
  unfold Declares at h
  generalize facts.declarations = ds at h
  induction h with
  | nil => exact List.forall_mem_nil _
  | cons hd _ ih => exact List.forall_mem_cons.2 ⟨Declaration.keyed_of_toItem hd, ih⟩

theorem keyed_of_extractAs {facts : Facts} {unit : String} {s : Snapshot}
    (h : facts.extractAs unit = .ok s) : s.Keyed := by
  obtain ⟨items, hitems, -, hstands⟩ := stands_of_extractAs h
  exact Snapshot.keyed_iff.2 fun i hi => hitems.keyed i (hstands.mem_of_mem_items hi)

/-- **What is extracted goes by what it is**, from one unit or from many: a record by its name and
template arguments, an enumeration or a variable by its name, a function by its name and parameters,
and a function type by its signature, at any depth. -/
theorem keyed_of_extract :
    (∀ (facts : Facts) (source : String) (s : Snapshot),
      facts.extract source = .ok s → s.Keyed) ∧
    ∀ (sources : List (String × Except Error Facts)) (s : Snapshot),
      extractAll sources = .ok s → s.Keyed := by
  refine ⟨fun facts source s h => keyed_of_extractAs h, fun sources s h => ?_⟩
  obtain ⟨parts, hparts, hmerge⟩ := Except.bind_eq_ok_iff.1 h
  rw [Snapshot.keyed_iff]
  intro i hi
  -- a merge takes every entity from one of its parts
  obtain ⟨part, hpart, hi⟩ := Snapshot.exists_part_of_mem_merge hmerge hi
  obtain ⟨source, -, hsource⟩ := Except.exists_of_mem_mapM hparts hpart
  obtain ⟨facts, -, hsource⟩ := Except.bind_eq_ok_iff.1 hsource
  obtain ⟨t, ht, hsource⟩ := Except.bind_eq_ok_iff.1 hsource
  cases hsource
  exact Snapshot.keyed_iff.1 (keyed_of_extractAs ht) i hi

/-- A pointer to a function that takes a pointer to a function. -/
def visitorFact : TypeFact :=
  .pointer <| .ofSignature {
    result := .ofName "void"
    parameters := [.pointer <| .ofSignature {
      result := .ofName "void", parameters := [.ofName "unsigned long int"] }] }

/-- A unit with a template instantiation and a function, whose names have blanks around them. -/
def registry : Facts where
  unit := ""
  declarations := [
    .record {
      name := " Slot ", templateArguments := ["long unsigned int", " Key"], layout := some {
        sizeBits := 64, alignBits := 64
        fields := [{ name := "visit", type := visitorFact, offsetBits := 0 }] } },
    .function { name := "\teach", result := .ofName "void", parameters := [visitorFact] }]

theorem keyed_of_extract_registry :
    (∃ s, registry.extract "registry.json" = .ok s ∧ s.Keyed ∧
      s.records.entries.map Record.uid = [⟨"Slot<unsigned long, Key>"⟩] ∧
      s.functions.entries.map Function.uid = [⟨"each(void (*)(void (*)(unsigned long)))"⟩]) ∧
    ∃ s, extractAll [("a.json", .ok registry), ("b.json", .ok registry)] = .ok s ∧ s.Keyed := by
  obtain ⟨s, hs, huids⟩ : ∃ s, registry.extract "registry.json" = .ok s ∧
      s.records.entries.map Record.uid = [⟨"Slot<unsigned long, Key>"⟩] ∧
      s.functions.entries.map Function.uid = [⟨"each(void (*)(void (*)(unsigned long)))"⟩] :=
    ⟨_, rfl, rfl, rfl⟩
  obtain ⟨merged, hmerged⟩ : ∃ s,
      extractAll [("a.json", .ok registry), ("b.json", .ok registry)] = .ok s := ⟨_, rfl⟩
  exact ⟨⟨s, hs, keyed_of_extract.1 registry "registry.json" s hs, huids⟩,
    merged, hmerged, keyed_of_extract.2 _ merged hmerged⟩

end Facts

end HeaderAbi
