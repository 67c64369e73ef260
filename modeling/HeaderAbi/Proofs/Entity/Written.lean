import HeaderAbi.Proofs.Entity.Form

/-!
# The forms of entities are data that texts carry

Every key of every form is a plain word, no record has a key twice, and every integer has 64 bits
(`Document.isWritten_toData`).
-/

namespace HeaderAbi

open Data

theorem Qualifiers.isWritten_toData (q : Qualifiers) : q.toData.isWritten = true :=
  isWritten_object (by simp only [List.map]; decide) (by simp [isWritten])

theorem Indirection.isWritten_toData (i : Indirection) : i.toData.isWritten = true := by
  cases i with
  | pointer q => exact isWritten_tagged (by decide) rfl q.isWritten_toData
  | lvalueReference => rfl
  | rvalueReference => rfl

theorem CallingConvention.isWritten_toData (c : CallingConvention) : c.toData.isWritten = true := by
  cases c with
  | other s => exact isWritten_tagged (by decide) rfl rfl
  | _ => rfl

theorem TypeRef.isWritten_formOf {u : TypeUse} {signature : Data} (h : signature.isWritten = true) :
    (formOf u signature).isWritten = true := by
  have hindirection : (ofList Indirection.toData u.indirection).isWritten = true :=
    isWritten_ofList fun i _ => i.isWritten_toData
  have hextents : (ofList (ofOption ofUInt64) u.extents).isWritten = true :=
    isWritten_ofList fun _ _ => isWritten_ofOption fun n _ => isWritten_ofUInt64 n
  refine isWritten_object (by simp only [List.map]; decide) ?_
  simp [Uid.toData, isWritten, u.qualifiers.isWritten_toData, hindirection, hextents, h]

theorem TypeRef.isWritten_toData : ∀ t : TypeRef, t.toData.isWritten = true
  | .named u => isWritten_formOf rfl
  | .function u r ps v c => by
    have hr := isWritten_toData r
    have hps : areWritten (ps.map toData) = true :=
      isWritten_ofList fun p _ => isWritten_toData p
    rw [toData, toDataList_eq_map]
    refine isWritten_formOf (isWritten_object (by simp only [List.map]; decide) ?_)
    simp [hr, hps, c.isWritten_toData, isWritten]

theorem Base.isWritten_toData (b : Base) : b.toData.isWritten = true :=
  isWritten_object (by simp only [List.map]; decide)
    (by simp [Uid.toData, Access.toData, isWritten, isWritten_ofUInt64])

theorem Field.isWritten_toData (f : Field) : f.toData.isWritten = true := by
  have hwidth : (ofOption ofUInt32 f.bitWidth).isWritten = true :=
    isWritten_ofOption fun n _ => isWritten_ofUInt32 n
  exact isWritten_object (by simp only [List.map]; decide)
    (by simp [Access.toData, isWritten, isWritten_ofUInt64, f.type.isWritten_toData, hwidth])

theorem Slot.isWritten_toData (s : Slot) : s.toData.isWritten = true :=
  isWritten_object (by simp only [List.map]; decide) (by simp [SlotKind.toData, isWritten])

theorem TemplateOrigin.isWritten_toData (t : TemplateOrigin) : t.toData.isWritten = true := by
  cases t with
  | plain => rfl
  | instantiation template arguments =>
    have harguments : (ofList text arguments).isWritten = true := isWritten_ofList fun _ _ => rfl
    have hcontent : (object [("template_name", .text template),
        ("arguments", ofList text arguments)]).isWritten = true :=
      isWritten_object (by simp only [List.map]; decide) (by simp [isWritten, harguments])
    exact isWritten_tagged (by decide) rfl hcontent

theorem Record.isWritten_toData (r : Record) : r.toData.isWritten = true := by
  have hbases : (ofList Base.toData r.bases).isWritten = true :=
    isWritten_ofList fun b _ => b.isWritten_toData
  have hfields : (ofList Field.toData r.fields).isWritten = true :=
    isWritten_ofList fun f _ => f.isWritten_toData
  have hvtable : (ofList Slot.toData r.vtable).isWritten = true :=
    isWritten_ofList fun s _ => s.isWritten_toData
  exact isWritten_object (by simp only [List.map]; decide)
    (by simp [Uid.toData, RecordKind.toData, isWritten, isWritten_ofUInt64, hbases, hfields,
      hvtable, r.template.isWritten_toData])

theorem EnumeratorValue.isWritten_toData (v : EnumeratorValue) : v.toData.isWritten = true := by
  cases v with
  | signed v =>
    have hlo : -0x8000000000000000 ≤ v.toInt := v.le_toInt
    have hhi : v.toInt < 0x8000000000000000 := v.toInt_lt
    refine isWritten_tagged (by decide) rfl ?_
    simp only [isWritten, Bool.and_eq_true, decide_eq_true_eq]
    omega
  | unsigned v => exact isWritten_tagged (by decide) rfl (isWritten_ofUInt64 v)

theorem Enumerator.isWritten_toData (e : Enumerator) : e.toData.isWritten = true :=
  isWritten_object (by simp only [List.map]; decide)
    (by simp [isWritten, e.value.isWritten_toData])

theorem EnumType.isWritten_toData (e : EnumType) : e.toData.isWritten = true := by
  have henumerators : (ofList Enumerator.toData e.enumerators).isWritten = true :=
    isWritten_ofList fun e _ => e.isWritten_toData
  exact isWritten_object (by simp only [List.map]; decide)
    (by simp [Uid.toData, isWritten, e.underlying.isWritten_toData, henumerators])

theorem Dispatch.isWritten_toData (v : Dispatch) : v.toData.isWritten = true :=
  isWritten_object (by simp only [List.map]; decide) (by simp [isWritten, isWritten_ofUInt32])

theorem Function.isWritten_toData (f : Function) : f.toData.isWritten = true := by
  have hparameters : (ofList TypeRef.toData f.parameters).isWritten = true :=
    isWritten_ofList fun p _ => p.isWritten_toData
  have hdispatch : (ofOption Dispatch.toData f.dispatch).isWritten = true :=
    isWritten_ofOption fun v _ => v.isWritten_toData
  have hparent : (ofOption Uid.toData f.parent).isWritten = true :=
    isWritten_ofOption fun _ _ => rfl
  exact isWritten_object (by simp only [List.map]; decide)
    (by simp [Uid.toData, Linkage.toData, Access.toData, isWritten, f.result.isWritten_toData,
      f.convention.isWritten_toData, hparameters, hdispatch, hparent])

theorem GlobalVar.isWritten_toData (g : GlobalVar) : g.toData.isWritten = true :=
  isWritten_object (by simp only [List.map]; decide)
    (by simp [Uid.toData, Linkage.toData, isWritten, g.type.isWritten_toData])

theorem Producer.isWritten_toData (p : Producer) : p.toData.isWritten = true :=
  isWritten_object (by simp only [List.map]; decide) (by simp [isWritten])

/-- **The form of a document is data that texts carry.** -/
theorem Document.isWritten_toData (d : Document) : d.toData.isWritten = true := by
  have hrecords : (ofList Record.toData d.records).isWritten = true :=
    isWritten_ofList fun r _ => r.isWritten_toData
  have henums : (ofList EnumType.toData d.enums).isWritten = true :=
    isWritten_ofList fun e _ => e.isWritten_toData
  have hfunctions : (ofList Function.toData d.functions).isWritten = true :=
    isWritten_ofList fun f _ => f.isWritten_toData
  have hglobals : (ofList GlobalVar.toData d.globals).isWritten = true :=
    isWritten_ofList fun g _ => g.isWritten_toData
  exact isWritten_object (by simp only [List.map]; decide)
    (by simp [isWritten_ofUInt32, d.producer.isWritten_toData, hrecords, henums, hfunctions,
      hglobals])

end HeaderAbi
