import HeaderAbi.Extraction
import HeaderAbi.Proofs.Snapshot.Items
import Mathlib.Data.List.Forall2

/-!
# Declarations and the entities they stand for

Extraction maps every declaration on its own (`Declaration.toItem`) and only then puts the entities
together (`Staging.add_eq`, `Staging.foldlM_add`).

* A declaration that cannot be mapped is reported as an invalid declaration of its unit, and nothing
  else goes wrong in the mapping (`Declaration.mapped_toItem`).
* A record without layout becomes an opaque record, everything else a complete entity
  (`Declaration.isOpaque_of_toItem`).
-/

namespace HeaderAbi

namespace Declaration

/-- The entity that a declaration stands for. -/
def toItem (unit : String) : Declaration → Except Error Item
  | .record r => return .record (← Extraction.record unit r)
  | .enum e => return .enum (← Extraction.enumeration unit e)
  | .function f => return .function (← Extraction.function unit f)
  | .variable v => return .global (← Extraction.global unit v)

/-- True for a record without layout. -/
def isForward : Declaration → Bool
  | .record r => r.layout.isNone
  | _ => false

end Declaration

namespace Extraction

/-! ### What goes wrong in the mapping -/

/-- A mapping gives something or finds that a declaration of the unit is invalid. -/
inductive Mapped (unit : String) {α : Type} : Except Error α → Prop where
  | ok (a : α) : Mapped unit (.ok a)
  | invalid (name reason : String) : Mapped unit (.error (.declaration unit name reason))

namespace Mapped

variable {unit : String} {α β : Type}

theorem bind {x : Except Error α} {f : α → Except Error β} (hx : Mapped unit x)
    (hf : ∀ a, Mapped unit (f a)) : Mapped unit (x >>= f) := by
  cases hx with
  | ok a => exact hf a
  | invalid name reason => exact .invalid name reason

theorem ite {p : Prop} [Decidable p] {x y : Except Error α} (hx : Mapped unit x)
    (hy : Mapped unit y) : Mapped unit (if p then x else y) := by
  split
  · exact hx
  · exact hy

theorem mapM {f : α → Except Error β} (hf : ∀ a, Mapped unit (f a)) (as : List α) :
    Mapped unit (as.mapM f) := by
  induction as with
  | nil => exact .ok []
  | cons a as ih =>
    rw [List.mapM_cons]
    exact (hf a).bind fun b => ih.bind fun bs => .ok (b :: bs)

end Mapped

variable (unit owner : String)

theorem mapped_requireName (name what : String) : Mapped unit (requireName unit name what) :=
  .ite (.invalid ..) (.ok _)

theorem mapped_typeUid (s : SpelledType) : Mapped unit (typeUid unit owner s) :=
  .ite (.invalid ..) (.ite (.ok _) (.ok _))

mutual

theorem mapped_typeRef : ∀ t : TypeFact, Mapped unit (typeRef unit owner t)
  | .named s => by
    rw [typeRef]
    exact (mapped_typeUid unit owner s).bind fun _ => .ok _
  | .function s r ps v c => by
    have hr : Mapped unit (typeRef unit owner r) := mapped_typeRef r
    have hps : Mapped unit (typeRefs unit owner ps) := mapped_typeRefs ps
    rw [typeRef]
    exact hr.bind fun _ => hps.bind fun _ => .ok _

theorem mapped_typeRefs : ∀ ts : List TypeFact, Mapped unit (typeRefs unit owner ts)
  | [] => .ok _
  | t :: ts => by
    have ht : Mapped unit (typeRef unit owner t) := mapped_typeRef t
    have hts : Mapped unit (typeRefs unit owner ts) := mapped_typeRefs ts
    rw [typeRefs]
    exact ht.bind fun _ => hts.bind fun _ => .ok _

end

theorem mapped_base (b : BaseFact) : Mapped unit (base unit owner b) :=
  (mapped_typeUid unit owner _).bind fun _ => .ok _

theorem mapped_field (f : FieldFact) : Mapped unit (field unit owner f) := by
  have htype : Mapped unit (typeRef unit owner f.type) := mapped_typeRef unit owner f.type
  rw [field]
  exact .ite (.invalid ..) (htype.bind fun _ => .ok _)

theorem mapped_slotValue (s : SlotFact) : Mapped unit (slotValue unit owner s) := by
  rw [slotValue]
  split
  · next m _ => exact (mapped_typeRefs unit owner m.parameters).bind fun _ => .ok _
  · exact .ite (.invalid ..) (.ok _)

theorem mapped_slot (s : SlotFact) : Mapped unit (slot unit owner s) :=
  (mapped_slotValue unit owner s).bind fun _ => .ok _

theorem mapped_record (r : RecordFact) : Mapped unit (record unit r) := by
  refine (mapped_requireName unit r.name "record").bind fun _ => ?_
  dsimp only
  split
  · exact .ok _
  · refine (Mapped.mapM (mapped_base unit _) _).bind fun _ => ?_
    refine (Mapped.mapM (mapped_field unit _) _).bind fun _ => ?_
    exact (Mapped.mapM (mapped_slot unit _) _).bind fun _ => .ok _

theorem mapped_enumerator (e : EnumeratorFact) : Mapped unit (enumerator unit owner e) :=
  .ite (.invalid ..) (.ok _)

theorem mapped_enumeration (e : EnumFact) : Mapped unit (enumeration unit e) := by
  refine (mapped_requireName unit e.name "enum").bind fun _ => ?_
  have hrest : ∀ underlying : TypeRef, Mapped unit (do
      let enumerators ← e.enumerators.mapM (enumerator unit e.name)
      return ({ uid := .ofName e.name, name := Text.trim e.name, underlying, enumerators } :
        EnumType)) :=
    fun _ => (Mapped.mapM (mapped_enumerator unit e.name) _).bind fun _ => .ok _
  split
  · next t _ => exact (mapped_typeRef unit e.name t).bind hrest
  · exact hrest _

theorem mapped_function (f : FunctionFact) : Mapped unit (function unit f) := by
  refine (mapped_requireName unit f.name "function").bind fun _ => ?_
  refine (mapped_typeRefs unit f.name f.parameters).bind fun _ => ?_
  have hresult : Mapped unit (typeRef unit f.name f.result) := mapped_typeRef unit f.name f.result
  dsimp only
  split
  · next t _ =>
    refine (mapped_typeUid unit f.name t.spelled).bind fun _ => (Mapped.ok _).bind fun _ => ?_
    exact .ite (.invalid ..) (hresult.bind fun _ => .ok _)
  · exact .ite (.invalid ..) (hresult.bind fun _ => .ok _)

theorem mapped_global (v : VariableFact) : Mapped unit (global unit v) :=
  (mapped_requireName unit v.name "variable").bind fun _ =>
    (mapped_typeRef unit v.name v.type).bind fun _ => .ok _

theorem isOpaque_of_record {r : RecordFact} {x : Record} (h : record unit r = .ok x) :
    x.isOpaque = r.layout.isNone := by
  obtain ⟨-, -, h⟩ := Except.bind_eq_ok_iff.1 h
  dsimp only at h
  split at h
  · next hlayout =>
    cases h
    rw [hlayout]
    rfl
  · next l hlayout =>
    obtain ⟨bases, -, h⟩ := Except.bind_eq_ok_iff.1 h
    obtain ⟨fields, -, h⟩ := Except.bind_eq_ok_iff.1 h
    obtain ⟨vtable, -, h⟩ := Except.bind_eq_ok_iff.1 h
    cases h
    rw [hlayout]
    rfl

end Extraction

open Extraction

namespace Declaration

variable {unit : String} {d : Declaration}

theorem mapped_toItem (unit : String) : ∀ d : Declaration, Mapped unit (d.toItem unit)
  | .record r => (mapped_record unit r).bind fun _ => .ok _
  | .enum e => (mapped_enumeration unit e).bind fun _ => .ok _
  | .function f => (mapped_function unit f).bind fun _ => .ok _
  | .variable v => (mapped_global unit v).bind fun _ => .ok _

/-- **A declaration stands for an entity** unless it is found to be invalid. -/
theorem exists_toItem
    (h : ∀ name reason, d.toItem unit ≠ .error (.declaration unit name reason)) :
    ∃ i, d.toItem unit = .ok i := by
  cases hd : d.toItem unit with
  | ok i => exact ⟨i, rfl⟩
  | error e =>
    have hmapped := mapped_toItem unit d
    rw [hd] at hmapped
    cases hmapped with
    | invalid name reason => exact absurd hd (h name reason)

/-- A record without layout becomes an opaque one, everything else is complete. -/
theorem isOpaque_of_toItem {i : Item} (h : d.toItem unit = .ok i) : i.isOpaque = d.isForward := by
  cases d <;> obtain ⟨x, hx, hi⟩ := Except.bind_eq_ok_iff.1 h <;> cases hi
  case record r => exact isOpaque_of_record unit hx
  all_goals rfl

end Declaration

/-! ### Extraction after mapping -/

namespace Extraction.Staging

/-- Take in a mapped entity. -/
def addItem (s : Staging) : Item → Except Error Staging
  | .record r => s.addRecord r
  | .enum e => do return { s with draft := ← lift (s.draft.add e) }
  | .function f => do return { s with draft := ← lift (s.draft.add f) }
  | .global g => do return { s with draft := ← lift (s.draft.add g) }

/-- A declaration is mapped first and taken in then. -/
theorem add_eq (unit : String) (s : Staging) (d : Declaration) :
    s.add unit d = d.toItem unit >>= s.addItem := by
  cases d <;> simp only [add, Declaration.toItem, bind_assoc, pure_bind] <;> rfl

/-- The declarations of a unit are taken in as the entities that they stand for. -/
theorem foldlM_add {unit : String} {ds : List Declaration} {items : List Item}
    (h : List.Forall₂ (fun d i => d.toItem unit = .ok i) ds items) (s : Staging) :
    ds.foldlM (add unit) s = items.foldlM addItem s := by
  induction h generalizing s with
  | nil => rfl
  | cons hd _ ih =>
    rw [List.foldlM_cons, List.foldlM_cons, add_eq, hd]
    simp only [ih]
    rfl

end Extraction.Staging

end HeaderAbi
