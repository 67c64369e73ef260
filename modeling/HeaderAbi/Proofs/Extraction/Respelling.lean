import HeaderAbi.Proofs.Extraction.Mapping
import Mathlib.Data.List.TakeWhile

/-!
# The spelling of fundamental types

**A unit whose fundamental types are spelled otherwise is extracted to the same**
(`Facts.extract_eq_of_respelled`).  `Respelled` says for each part of a unit what may be spelled
otherwise: type names without template arguments and the template arguments themselves, wherever
they occur, also within the signatures of function types.

A type gets its identifier from the one name of its fundamental type
(`SpelledType.Respelled.typeUid_eq`), and everything else is made from identifiers.  The lemmas
follow the mapping from uses of types (`TypeFact.Respelled.typeRef_eq`) to whole declarations
(`Declaration.Respelled.toItem_eq`).
-/

namespace HeaderAbi

/-! ### Spellings -/

namespace Text

theorem wordsFrom_of_blank {cs : List Char} (h : ∀ c ∈ cs, isBlank c = true) :
    wordsFrom [] cs = [] := by
  induction cs with
  | nil => rfl
  | cons c cs ih =>
    rw [List.forall_mem_cons] at h
    rw [wordsFrom, if_pos h.1]
    exact ih h.2

/-- Nothing remains of a text only if all of it is blank. -/
theorem blank_of_trimChars {cs : List Char} (h : trimChars cs = []) :
    ∀ c ∈ cs, isBlank c = true := by
  rw [trimChars, List.reverse_eq_nil_iff, List.dropWhile_eq_nil_iff] at h
  have hnone : cs.dropWhile isBlank = [] := by
    by_contra hne
    have hhead : isBlank ((cs.dropWhile isBlank).head hne) = true :=
      h _ (List.mem_reverse.2 (List.head_mem hne))
    rw [List.head_dropWhile_not isBlank] at hhead
    cases hhead
  exact List.dropWhile_eq_nil_iff.1 hnone

/-- A text of which nothing remains has no words. -/
theorem words_of_trim_isEmpty {s : String} (h : (trim s).isEmpty = true) : words s = [] := by
  refine wordsFrom_of_blank (blank_of_trimChars ?_)
  rw [String.isEmpty_iff] at h
  simpa [trim] using congrArg String.toList h

end Text

namespace Builtin

/-- The same spelling, or two spellings of one fundamental type. -/
inductive Respelled (spelling : String) : String → Prop where
  | same : Respelled spelling spelling
  | builtin {other name : String} (h : canonicalName spelling = some name)
      (h' : canonicalName other = some name) : Respelled spelling other

variable {spelling other : String}

/-- What spells a fundamental type is not blank. -/
theorem trim_isEmpty_of_canonicalName {name : String} (h : canonicalName spelling = some name) :
    (Text.trim spelling).isEmpty = false := by
  rw [← Bool.not_eq_true]
  intro hblank
  have hnone : canonicalName "" = none := by decide
  rw [canonicalName, Text.words_of_trim_isEmpty hblank] at h
  rw [canonicalName] at hnone
  exact Option.some_ne_none name (h.symm.trans hnone)

end Builtin

/-! ### Parts of a unit, spelled otherwise -/

/-- A type with another spelling of its name, if it has no template arguments, or of these. -/
inductive SpelledType.Respelled (s : SpelledType) : SpelledType → Prop where
  | name {name : String} (plain : s.templateArguments = []) (h : Builtin.Respelled s.name name) :
    s.Respelled { s with name }
  | arguments {args : List String} (h : List.Forall₂ Builtin.Respelled s.templateArguments args) :
    s.Respelled { s with templateArguments := args }

/-- A use of a type that is spelled otherwise, at any depth of its signature. -/
inductive TypeFact.Respelled : TypeFact → TypeFact → Prop where
  | named {s s' : SpelledType} (h : s.Respelled s') : TypeFact.Respelled (.named s) (.named s')
  | function {s s' : SpelledType} {r r' : TypeFact} {ps ps' : List TypeFact} {v : Bool}
      {c : Option String} (h : s.Respelled s') (hr : TypeFact.Respelled r r')
      (hps : List.Forall₂ TypeFact.Respelled ps ps') :
    TypeFact.Respelled (.function s r ps v c) (.function s' r' ps' v c)

inductive BaseFact.Respelled (b : BaseFact) : BaseFact → Prop where
  | intro {type : TypeFact} (h : b.type.Respelled type) : b.Respelled { b with type }

inductive FieldFact.Respelled (f : FieldFact) : FieldFact → Prop where
  | intro {type : TypeFact} (h : f.type.Respelled type) : f.Respelled { f with type }

inductive MethodFact.Respelled (m : MethodFact) : MethodFact → Prop where
  | intro {parameters : List TypeFact}
      (h : List.Forall₂ TypeFact.Respelled m.parameters parameters) :
    m.Respelled { m with parameters }

inductive SlotFact.Respelled (s : SlotFact) : SlotFact → Prop where
  | intro {method : Option MethodFact} (h : Option.Rel MethodFact.Respelled s.method method) :
    s.Respelled { s with method }

inductive LayoutFact.Respelled (l : LayoutFact) : LayoutFact → Prop where
  | intro {bases : List BaseFact} {fields : List FieldFact} {vtable : List SlotFact}
      (hb : List.Forall₂ BaseFact.Respelled l.bases bases)
      (hf : List.Forall₂ FieldFact.Respelled l.fields fields)
      (hv : List.Forall₂ SlotFact.Respelled l.vtable vtable) :
    l.Respelled { l with bases, fields, vtable }

inductive RecordFact.Respelled (r : RecordFact) : RecordFact → Prop where
  | intro {templateArguments : List String} {layout : Option LayoutFact}
      (ha : List.Forall₂ Builtin.Respelled r.templateArguments templateArguments)
      (hl : Option.Rel LayoutFact.Respelled r.layout layout) :
    r.Respelled { r with templateArguments, layout }

inductive EnumFact.Respelled (e : EnumFact) : EnumFact → Prop where
  | intro {underlying : Option TypeFact}
      (h : Option.Rel TypeFact.Respelled e.underlying underlying) :
    e.Respelled { e with underlying }

inductive FunctionFact.Respelled (f : FunctionFact) : FunctionFact → Prop where
  | intro {result : TypeFact} {parameters : List TypeFact} {parent : Option TypeFact}
      (hr : f.result.Respelled result)
      (hps : List.Forall₂ TypeFact.Respelled f.parameters parameters)
      (hp : Option.Rel TypeFact.Respelled f.parent parent) :
    f.Respelled { f with result, parameters, parent }

inductive VariableFact.Respelled (v : VariableFact) : VariableFact → Prop where
  | intro {type : TypeFact} (h : v.type.Respelled type) : v.Respelled { v with type }

inductive Declaration.Respelled : Declaration → Declaration → Prop where
  | record {r r' : RecordFact} (h : r.Respelled r') : Declaration.Respelled (.record r) (.record r')
  | enum {e e' : EnumFact} (h : e.Respelled e') : Declaration.Respelled (.enum e) (.enum e')
  | function {f f' : FunctionFact} (h : f.Respelled f') :
    Declaration.Respelled (.function f) (.function f')
  | variable {v v' : VariableFact} (h : v.Respelled v') :
    Declaration.Respelled (.variable v) (.variable v')

/-- A unit that differs from another one only in how fundamental types are spelled. -/
inductive Facts.Respelled (facts : Facts) : Facts → Prop where
  | intro {declarations : List Declaration}
      (h : List.Forall₂ Declaration.Respelled facts.declarations declarations) :
    facts.Respelled { facts with declarations }

/-! ### Mapping -/

theorem mapM_eq_of_forall₂ {α γ : Type} {R : α → α → Prop} {f : α → Except Error γ}
    {as bs : List α} (h : List.Forall₂ R as bs) (hf : ∀ a b, R a b → f a = f b) :
    as.mapM f = bs.mapM f := by
  induction h with
  | nil => rfl
  | cons hab _ ih => rw [List.mapM_cons, List.mapM_cons, hf _ _ hab, ih]

open Extraction

variable {unit owner : String}

theorem Builtin.Respelled.canonicalArgument_eq {a b : String} (h : Respelled a b) :
    canonicalArgument a = canonicalArgument b := by
  cases h with
  | same => rfl
  | builtin ha hb => rw [canonicalArgument, canonicalArgument, ha, hb]; rfl

theorem canonicalArguments_eq {as bs : List String} (h : List.Forall₂ Builtin.Respelled as bs) :
    as.map canonicalArgument = bs.map canonicalArgument := by
  induction h with
  | nil => rfl
  | cons hab _ ih => rw [List.map_cons, List.map_cons, hab.canonicalArgument_eq, ih]

namespace SpelledType.Respelled

variable {s s' : SpelledType}

/-- **A type has one identifier**, however it is spelled. -/
theorem typeUid_eq (h : s.Respelled s') : typeUid unit owner s = typeUid unit owner s' := by
  cases h with
  | name plain h =>
    cases h with
    | same => rfl
    | builtin h h' =>
      have hname := Builtin.trim_isEmpty_of_canonicalName h
      have hname' := Builtin.trim_isEmpty_of_canonicalName h'
      simp [typeUid, plain, hname, hname', h, h']
  | arguments h =>
    have hempty := congrArg List.isEmpty (canonicalArguments_eq h)
    simp only [List.isEmpty_map] at hempty
    simp only [typeUid, hempty, canonicalArguments_eq h]

theorem decorate_eq (h : s.Respelled s') (uid : Uid) : decorate uid s = decorate uid s' := by
  cases h <;> rfl

end SpelledType.Respelled

theorem TypeFact.Respelled.spelled {t t' : TypeFact} (h : t.Respelled t') :
    t.spelled.Respelled t'.spelled := by
  cases h with
  | named h => exact h
  | function h => exact h

-- By recursion on the use in the first unit: there is no induction on the relation, which passes
-- through `List.Forall₂`.
mutual

theorem TypeFact.Respelled.typeRef_eq : ∀ {t t' : TypeFact}, t.Respelled t' →
    typeRef unit owner t = typeRef unit owner t'
  | .named _, .named _, .named h => by
    rw [typeRef, typeRef, h.typeUid_eq]
    simp only [h.decorate_eq]
  | .function _ r ps _ _, .function _ r' ps' _ _, .function h hr hps => by
    have hresult : typeRef unit owner r = typeRef unit owner r' := hr.typeRef_eq
    have hparameters : typeRefs unit owner ps = typeRefs unit owner ps' := typeRefs_eq hps
    rw [typeRef, typeRef, hresult, hparameters]
    simp only [h.decorate_eq]

theorem typeRefs_eq : ∀ {ts ts' : List TypeFact}, List.Forall₂ TypeFact.Respelled ts ts' →
    typeRefs unit owner ts = typeRefs unit owner ts'
  | [], [], .nil => rfl
  | t :: ts, t' :: ts', .cons h hs => by
    have hhead : typeRef unit owner t = typeRef unit owner t' := h.typeRef_eq
    have htail : typeRefs unit owner ts = typeRefs unit owner ts' := typeRefs_eq hs
    rw [typeRefs, typeRefs, hhead, htail]

end

theorem BaseFact.Respelled.base_eq {b b' : BaseFact} (h : b.Respelled b') :
    base unit owner b = base unit owner b' := by
  cases h with
  | intro h => rw [base, base, h.spelled.typeUid_eq]

theorem FieldFact.Respelled.field_eq {f f' : FieldFact} (h : f.Respelled f') :
    field unit owner f = field unit owner f' := by
  cases h with
  | intro h => simp only [field, h.typeRef_eq]

theorem SlotFact.Respelled.slot_eq {s s' : SlotFact} (h : s.Respelled s') :
    slot unit owner s = slot unit owner s' := by
  obtain ⟨h⟩ := h
  cases hm : s.method with
  | none =>
    rw [hm] at h
    cases h
    simp only [slot, slotValue, hm]
  | some m =>
    rw [hm] at h
    cases h with
    | some h => cases h with
      | intro h => simp only [slot, slotValue, hm, typeRefs_eq h]

theorem RecordFact.Respelled.record_eq {r r' : RecordFact} (h : r.Respelled r') :
    record unit r = record unit r' := by
  obtain ⟨ha, hl⟩ := h
  cases hlayout : r.layout with
  | none =>
    rw [hlayout] at hl
    cases hl
    simp only [record, canonicalArguments_eq ha, hlayout]
  | some l =>
    rw [hlayout] at hl
    cases hl with
    | some hl =>
      obtain @⟨bases, fields, vtable, hb, hf, hv⟩ := hl
      have hbases : ∀ owner, l.bases.mapM (base unit owner) = bases.mapM (base unit owner) :=
        fun _ => mapM_eq_of_forall₂ hb fun _ _ h => h.base_eq
      have hfields : ∀ owner, l.fields.mapM (field unit owner) = fields.mapM (field unit owner) :=
        fun _ => mapM_eq_of_forall₂ hf fun _ _ h => h.field_eq
      have hvtable : ∀ owner, l.vtable.mapM (slot unit owner) = vtable.mapM (slot unit owner) :=
        fun _ => mapM_eq_of_forall₂ hv fun _ _ h => h.slot_eq
      simp only [record, canonicalArguments_eq ha, hlayout, hbases, hfields, hvtable]

theorem EnumFact.Respelled.enumeration_eq {e e' : EnumFact} (h : e.Respelled e') :
    enumeration unit e = enumeration unit e' := by
  obtain ⟨h⟩ := h
  cases ht : e.underlying with
  | none =>
    rw [ht] at h
    cases h
    simp only [enumeration, ht]
  | some t =>
    rw [ht] at h
    cases h with
    | some h => simp only [enumeration, ht, h.typeRef_eq]

theorem FunctionFact.Respelled.function_eq {f f' : FunctionFact} (h : f.Respelled f') :
    function unit f = function unit f' := by
  obtain ⟨hr, hps, hp⟩ := h
  cases ht : f.parent with
  | none =>
    rw [ht] at hp
    cases hp
    simp only [function, ht, hr.typeRef_eq, typeRefs_eq hps]
  | some t =>
    rw [ht] at hp
    cases hp with
    | some hp => simp only [function, ht, hr.typeRef_eq, typeRefs_eq hps, hp.spelled.typeUid_eq]

theorem VariableFact.Respelled.global_eq {v v' : VariableFact} (h : v.Respelled v') :
    global unit v = global unit v' := by
  cases h with
  | intro h => simp only [global, h.typeRef_eq]

/-- **A declaration stands for one entity**, however its types are spelled. -/
theorem Declaration.Respelled.toItem_eq {d d' : Declaration} (h : d.Respelled d') :
    d.toItem unit = d'.toItem unit := by
  rcases h with h | h | h | h
  · rw [toItem, toItem, h.record_eq]
  · rw [toItem, toItem, h.enumeration_eq]
  · rw [toItem, toItem, h.function_eq]
  · rw [toItem, toItem, h.global_eq]

/-! ### Extraction -/

/-- **A run of steps** takes in the same entities, however the declarations are spelled. -/
theorem foldlM_add_eq {ds ds' : List Declaration} (h : List.Forall₂ Declaration.Respelled ds ds')
    (s : Staging) : ds.foldlM (Staging.add unit) s = ds'.foldlM (Staging.add unit) s := by
  induction h generalizing s with
  | nil => rfl
  | cons hd _ ih => simp only [List.foldlM_cons, Staging.add_eq, hd.toItem_eq, ih]

namespace Facts

/-- **The spelling of fundamental types does not show.**  A unit that differs only in it is
extracted to the same snapshot, or fails with the same error. -/
theorem extract_eq_of_respelled {facts facts' : Facts} (h : facts.Respelled facts')
    (source : String) : facts.extract source = facts'.extract source := by
  obtain ⟨h⟩ := h
  simp only [extract, extractAs, foldlM_add_eq h]

/-- An instantiation of a template, a record with it as a base, and a function that takes a
callback. -/
def spelled (integer : String) : Facts where
  unit := "a.h"
  declarations := [
    .record {
      name := "Box", templateArguments := [integer]
      layout := some {
        sizeBits := 32, alignBits := 32
        fields := [{ name := "value", type := .ofName integer, offsetBits := 0 }] } },
    .record {
      name := "Counter"
      layout := some {
        sizeBits := 32, alignBits := 32
        bases := [{
          type := .named { name := "Box", templateArguments := [integer] }, offsetBits := 0 }] } },
    .function {
      name := "visit", result := .ofName "void"
      parameters := [.ofSignature { result := .ofName "void", parameters := [.ofName integer] }] }]

theorem respelled_spelled {a b : String} (h : Builtin.Respelled a b) :
    (spelled a).Respelled (spelled b) := by
  have htype : (TypeFact.ofName a).Respelled (.ofName b) := .named (.name rfl h)
  have hvoid : (TypeFact.ofName "void").Respelled (.ofName "void") := .named (.name rfl .same)
  have harguments : List.Forall₂ Builtin.Respelled [a] [b] := .cons h .nil
  refine .intro (.cons (.record ?box) (.cons (.record ?counter) (.cons (.function ?visit) .nil)))
  case box => exact .intro harguments (.some (.intro .nil (.cons (.intro htype) .nil) .nil))
  case counter =>
    have hbox : TypeFact.Respelled (.named { name := "Box", templateArguments := [a] })
        (.named { name := "Box", templateArguments := [b] }) := .named (.arguments harguments)
    exact .intro .nil (.some (.intro (.cons (.intro hbox) .nil) .nil .nil))
  case visit =>
    have hcallback : List.Forall₂ TypeFact.Respelled [.ofName a] [.ofName b] := .cons htype .nil
    exact .intro hvoid (.cons (.function (.name rfl .same) hvoid hcallback) .nil) .none

theorem extract_spelled : (spelled "unsigned int").Respelled (spelled " unsigned\t") ∧
    (spelled "unsigned int").extract "a.json" = (spelled " unsigned\t").extract "a.json" ∧
    ∃ s, (spelled "unsigned int").extract "a.json" = .ok s := by
  have hrespelled : (spelled "unsigned int").Respelled (spelled " unsigned\t") :=
    respelled_spelled (.builtin rfl rfl)
  exact ⟨hrespelled, extract_eq_of_respelled hrespelled "a.json", _, rfl⟩

end Facts

end HeaderAbi
