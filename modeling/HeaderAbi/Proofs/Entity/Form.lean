import HeaderAbi.Dump.Document
import HeaderAbi.Proofs.Data.Form

/-!
# Entities are read back from their forms

Whatever a faithful text format makes of the form of an entity, the reader of the entity gives it
back.
-/

namespace HeaderAbi

open Data

section
variable {F : Data → Data} (hF : Faithful F)
include hF

theorem Uid.ofData?_toData (u : Uid) : ofData? (F u.toData) = some u := by
  rw [toData, hF.text]
  rfl

theorem Qualifiers.ofData?_toData (q : Qualifiers) : ofData? (F q.toData) = some q := by
  simp [toData, ofData?, hF.fieldsOf, flag, defaulted, hF.bool, asBool?]

theorem Indirection.ofData?_toData (i : Indirection) : ofData? (F i.toData) = some i := by
  cases i with
  | pointer q => simp [toData, ofData?, hF.variant, q.ofData?_toData hF]
  | lvalueReference => rw [toData, hF.text]; rfl
  | rvalueReference => rw [toData, hF.text]; rfl

theorem CallingConvention.ofData?_toData (c : CallingConvention) :
    ofData? (F c.toData) = some c := by
  cases c with
  | other s => simp [toData, ofData?, hF.variant, hF.text, asText?]
  | _ => exact (congrArg ofData? (hF.text _)).trans rfl

/-! ### Uses of types -/

namespace TypeRef

theorem asList?_extents (es : List (Option UInt64)) :
    Data.asList? (Data.asOption? Data.asUInt64?) (F (.ofList (.ofOption .ofUInt64) es)) =
      some es :=
  hF.asList? fun _ _ => hF.asOption? fun n _ =>
    ⟨by rw [ofUInt64, hF.int]; rfl, hF.asUInt64? n⟩

theorem asList?_indirection (is : List Indirection) :
    Data.asList? Indirection.ofData? (F (.ofList Indirection.toData is)) = some is :=
  hF.asList? fun i _ => i.ofData?_toData hF

omit hF in
theorem toDataList_eq_map (ts : List TypeRef) : toDataList ts = ts.map toData := by
  induction ts with
  | nil => rfl
  | cons t ts ih => rw [toDataList, ih, List.map_cons]

/-- **A use is read back** by more levels than the data have. -/
theorem ofDataWithin?_toData : ∀ {t : TypeRef} {fuel : Nat}, (F t.toData).depth < fuel →
    ofDataWithin? fuel (F t.toData) = some t
  | _, 0, h => absurd h (Nat.not_lt_zero _)
  | .named u, fuel + 1, _ => by
    simp [ofDataWithin?, toData, formOf, hF.fieldsOf, required, defaulted, listed, Data.optional,
      Data.asOption?, hF.null, u.uid.ofData?_toData hF, u.qualifiers.ofData?_toData hF,
      asList?_indirection hF, asList?_extents hF]
  | .function u r ps v c, fuel + 1, h => by
    let signature : Data := .object [("return_type", r.toData), ("parameters", .ofList toData ps),
      ("variadic", .bool v), ("calling_convention", c.toData)]
    have hform : toData (.function u r ps v c) = formOf u signature := by
      rw [toData, toDataList_eq_map]
      rfl
    rw [hform] at h ⊢
    have hsignature : (F signature).depth < (F (formOf u signature)).depth :=
      hF.depth _ ("function", signature) (by simp)
    have hr : (F r.toData).depth < (F signature).depth :=
      hF.depth _ ("return_type", r.toData) (by simp)
    have hps : (F (.ofList toData ps)).depth < (F signature).depth :=
      hF.depth _ ("parameters", .ofList toData ps) (by simp)
    have hresult : ofDataWithin? fuel (F r.toData) = some r := ofDataWithin?_toData (by omega)
    have hparameters : Data.asList? (ofDataWithin? fuel) (F (.ofList toData ps)) = some ps := by
      refine hF.asList? fun p hp => ?_
      have hlt : (F p.toData).depth < (F (.ofList toData ps)).depth :=
        hF.depth_item _ _ (List.mem_map_of_mem hp)
      exact ofDataWithin?_toData (by omega)
    simp [ofDataWithin?, formOf, signature, hF.fieldsOf, required, defaulted, listed, flag,
      Data.optional, Data.asOption?, hF.isNull, hF.bool, asBool?, u.uid.ofData?_toData hF,
      u.qualifiers.ofData?_toData hF, c.ofData?_toData hF, asList?_indirection hF,
      asList?_extents hF, hresult, hparameters]

theorem ofData?_toData (t : TypeRef) : ofData? (F t.toData) = some t :=
  ofDataWithin?_toData hF (Nat.lt_succ_self _)

end TypeRef

theorem Access.ofData?_toData (a : Access) : ofData? (F a.toData) = some a := by
  rw [toData, hF.text]
  cases a <;> rfl

theorem Linkage.ofData?_toData (l : Linkage) : ofData? (F l.toData) = some l := by
  rw [toData, hF.text]
  cases l <;> rfl

/-! ### Entities -/

theorem Base.ofData?_toData (b : Base) : ofData? (F b.toData) = some b := by
  simp [toData, ofData?, hF.fieldsOf, required, defaulted, flag, hF.bool, asBool?,
    b.uid.ofData?_toData hF, b.access.ofData?_toData hF, hF.asUInt64?]

theorem Field.ofData?_toData (f : Field) : ofData? (F f.toData) = some f := by
  have hwidth : Data.asOption? Data.asUInt32? (F (.ofOption .ofUInt32 f.bitWidth)) =
      some f.bitWidth :=
    hF.asOption? fun n _ => ⟨by rw [ofUInt32, hF.int]; rfl, hF.asUInt32? n⟩
  simp [toData, ofData?, hF.fieldsOf, required, defaulted, Data.optional, hF.text, asText?,
    f.type.ofData?_toData hF, f.access.ofData?_toData hF, hF.asUInt64?, hwidth]

theorem Slot.ofData?_toData (s : Slot) : ofData? (F s.toData) = some s := by
  have hkind : SlotKind.ofData? (F s.kind.toData) = some s.kind := by
    rw [SlotKind.toData, hF.text]
    cases s.kind <;> rfl
  simp [toData, ofData?, hF.fieldsOf, required, defaulted, flag, hF.text, asText?, hF.bool, asBool?,
    hkind]

theorem TemplateOrigin.ofData?_toData (t : TemplateOrigin) : ofData? (F t.toData) = some t := by
  cases t with
  | plain => exact (congrArg ofData? (hF.text _)).trans rfl
  | instantiation template arguments =>
    have harguments : Data.asList? Data.asText? (F (.ofList .text arguments)) = some arguments :=
      hF.asList? fun a _ => by rw [hF.text]; rfl
    simp [toData, ofData?, hF.variant, hF.fields, required, hF.text, asText?, harguments]

theorem Record.ofData?_toData (r : Record) : ofData? (F r.toData) = some r := by
  have hkind : RecordKind.ofData? (F r.kind.toData) = some r.kind := by
    rw [RecordKind.toData, hF.text]
    cases r.kind <;> rfl
  have hbases : Data.asList? Base.ofData? (F (.ofList Base.toData r.bases)) = some r.bases :=
    hF.asList? fun b _ => b.ofData?_toData hF
  have hfields : Data.asList? Field.ofData? (F (.ofList Field.toData r.fields)) = some r.fields :=
    hF.asList? fun f _ => f.ofData?_toData hF
  have hvtable : Data.asList? Slot.ofData? (F (.ofList Slot.toData r.vtable)) = some r.vtable :=
    hF.asList? fun s _ => s.ofData?_toData hF
  simp [toData, ofData?, hF.fieldsOf, required, defaulted, listed, flag, hF.text, asText?, hF.bool,
    asBool?, r.uid.ofData?_toData hF, r.template.ofData?_toData hF, hF.asUInt64?, hkind, hbases,
    hfields, hvtable]

theorem EnumeratorValue.ofData?_toData (v : EnumeratorValue) : ofData? (F v.toData) = some v := by
  cases v with
  | signed v => simp [toData, ofData?, hF.variant, hF.asInt64?]
  | unsigned v =>
    have hv : (F (.int v.toNat)).asUInt64? = some v := hF.asUInt64? v
    simp [toData, ofData?, hF.variant, hv]

theorem Enumerator.ofData?_toData (e : Enumerator) : ofData? (F e.toData) = some e := by
  simp [toData, ofData?, hF.fieldsOf, required, hF.text, asText?, e.value.ofData?_toData hF]

theorem EnumType.ofData?_toData (e : EnumType) : ofData? (F e.toData) = some e := by
  have henumerators : Data.asList? Enumerator.ofData?
      (F (.ofList Enumerator.toData e.enumerators)) = some e.enumerators :=
    hF.asList? fun e _ => e.ofData?_toData hF
  simp [toData, ofData?, hF.fieldsOf, required, defaulted, listed, hF.text, asText?,
    e.uid.ofData?_toData hF, e.underlying.ofData?_toData hF, henumerators]

theorem Dispatch.ofData?_toData (v : Dispatch) : ofData? (F v.toData) = some v := by
  simp [toData, ofData?, hF.fieldsOf, required, defaulted, flag, hF.bool, asBool?, hF.asUInt32?]

theorem Function.ofData?_toData (f : Function) : ofData? (F f.toData) = some f := by
  have hparameters : Data.asList? TypeRef.ofData? (F (.ofList TypeRef.toData f.parameters)) =
      some f.parameters :=
    hF.asList? fun p _ => p.ofData?_toData hF
  have hdispatch : Data.asOption? Dispatch.ofData? (F (.ofOption Dispatch.toData f.dispatch)) =
      some f.dispatch :=
    hF.asOption? fun v _ => ⟨hF.isNull _, v.ofData?_toData hF⟩
  have hparent : Data.asOption? Uid.ofData? (F (.ofOption Uid.toData f.parent)) = some f.parent :=
    hF.asOption? fun u _ => ⟨by rw [Uid.toData, hF.text]; rfl, u.ofData?_toData hF⟩
  simp [toData, ofData?, hF.fieldsOf, required, defaulted, listed, flag, Data.optional, hF.text,
    asText?, hF.bool, asBool?, f.uid.ofData?_toData hF, f.result.ofData?_toData hF,
    f.convention.ofData?_toData hF, f.linkage.ofData?_toData hF, f.access.ofData?_toData hF,
    hparameters, hdispatch, hparent]

theorem GlobalVar.ofData?_toData (g : GlobalVar) : ofData? (F g.toData) = some g := by
  simp [toData, ofData?, hF.fieldsOf, required, defaulted, hF.text, asText?,
    g.uid.ofData?_toData hF, g.type.ofData?_toData hF, g.linkage.ofData?_toData hF]

/-! ### Documents -/

theorem Producer.ofData?_toData (p : Producer) : ofData? (F p.toData) = some p := by
  simp [toData, ofData?, hF.fieldsOf, required, hF.text, asText?]

/-- **A document is read back from its form.** -/
theorem Document.ofData?_toData (d : Document) : ofData? (F d.toData) = some d := by
  have hrecords : Data.asList? Record.ofData? (F (.ofList Record.toData d.records)) =
      some d.records := hF.asList? fun r _ => r.ofData?_toData hF
  have henums : Data.asList? EnumType.ofData? (F (.ofList EnumType.toData d.enums)) =
      some d.enums := hF.asList? fun e _ => e.ofData?_toData hF
  have hfunctions : Data.asList? Function.ofData? (F (.ofList Function.toData d.functions)) =
      some d.functions := hF.asList? fun f _ => f.ofData?_toData hF
  have hglobals : Data.asList? GlobalVar.ofData? (F (.ofList GlobalVar.toData d.globals)) =
      some d.globals := hF.asList? fun g _ => g.ofData?_toData hF
  simp [toData, ofData?, hF.fieldsOf, required, defaulted, listed, hF.asUInt32?,
    d.producer.ofData?_toData hF, hrecords, henums, hfunctions, hglobals]

theorem Document.versionField?_toData (d : Document) :
    (F d.toData).versionField? "format_version" = some d.formatVersion.toNat := by
  simp [toData, hF.version, ofUInt32, hF.int, asNat?]

end

end HeaderAbi
