import HeaderAbi.Packed.Entity
import HeaderAbi.Proofs.Entity.Form
import HeaderAbi.Proofs.Packed.Codec

/-!
# Packed entities are read back

Every entity is read back from its packed bytes, whatever bytes follow, provided that its texts and
lists have lengths that fit into 64 bits (`Data.fits`, of the form of the entity in text dumps,
which holds all of them).

Uses of types nest without bound.  Each signature takes bytes of its own, so a fuel of as many
levels as there are bytes is enough (`TypeRef.unpackWithin_pack`).
-/

namespace HeaderAbi

namespace Data

mutual

/-- Every text and every list has a length below `2 ^ 64`. -/
def fits : Data → Bool
  | .text s => decide (s.utf8ByteSize < 0x10000000000000000)
  | .list items => decide (items.length < 0x10000000000000000) && fitsList items
  | .object fields => fitsFields fields
  | .tagged _ content => content.fits
  | _ => true

def fitsList : List Data → Bool
  | [] => true
  | d :: ds => d.fits && fitsList ds

def fitsFields : List (String × Data) → Bool
  | [] => true
  | (_, d) :: fs => d.fits && fitsFields fs

end

theorem fits_text {s : String} : (text s).fits = true ↔ s.utf8ByteSize < 0x10000000000000000 := by
  simp [fits]

theorem fitsList_iff {ds : List Data} : fitsList ds = true ↔ ∀ d ∈ ds, d.fits = true := by
  induction ds with
  | nil => simp [fitsList]
  | cons d ds ih => simp [fitsList, ih]

theorem fits_list {ds : List Data} :
    (list ds).fits = true ↔ ds.length < 0x10000000000000000 ∧ ∀ d ∈ ds, d.fits = true := by
  simp [fits, fitsList_iff]

theorem fits_ofList {α : Type} {form : α → Data} {as : List α} :
    (ofList form as).fits = true ↔ as.length < 0x10000000000000000 ∧ ∀ a ∈ as, (form a).fits = true := by
  simp [ofList, fits_list]

end Data

/-! ### Uses of types -/

theorem Uid.reads {u : Uid} (h : u.toData.fits = true) : codec.Reads u :=
  (Codec.reads_text (Data.fits_text.1 h)).via rfl

theorem Qualifiers.reads (q : Qualifiers) : codec.Reads q :=
  ((Codec.reads_bool _).pair ((Codec.reads_bool _).pair (Codec.reads_bool _))).via rfl

theorem Indirection.reads (i : Indirection) : codec.Reads i := fun rest => by
  cases i with
  | pointer q =>
    change (Qualifiers.codec.decode (Qualifiers.codec.encode q ++ rest)).map _ = _
    rw [q.reads rest]
    rfl
  | lvalueReference => rfl
  | rvalueReference => rfl

theorem CallingConvention.reads {c : CallingConvention} (h : c.toData.fits = true) :
    codec.Reads c := fun rest => by
  cases c with
  | other s =>
    change (Codec.text.decode (Codec.text.encode s ++ rest)).map _ = _
    rw [Codec.reads_text (Data.fits_text.1 h) rest]
    rfl
  | _ => rfl

theorem TypeUse.reads {u : TypeUse} {signature : Data}
    (h : (TypeRef.formOf u signature).fits = true) : codec.Reads u := by
  simp only [TypeRef.formOf, Data.fits, Data.fitsFields, Bool.and_eq_true, Data.fits_ofList] at h
  obtain ⟨hu, -, ⟨hi, -⟩, ⟨he, -⟩, -⟩ := h
  exact ((Uid.reads hu).pair ((Qualifiers.reads _).pair
    ((Codec.reads_list hi fun i _ => i.reads).pair
      (Codec.reads_list he fun e _ => Codec.reads_option fun n _ => Codec.reads_uint64 n)))).via rfl

namespace TypeRef

theorem packList_eq_flatMap (ts : List TypeRef) : packList ts = ts.flatMap pack := by
  induction ts with
  | nil => rfl
  | cons t ts ih => rw [packList, ih, List.flatMap_cons]

theorem length_pack_le_packList {t : TypeRef} {ts : List TypeRef} (h : t ∈ ts) :
    (pack t).length ≤ (packList ts).length := by
  induction ts with
  | nil => cases h
  | cons s ts ih =>
    rw [packList, List.length_append]
    obtain rfl | h := List.mem_cons.1 h
    · omega
    · have := ih h
      omega

theorem length_pack_pos (t : TypeRef) : 0 < (pack t).length := by
  cases t <;> simp only [pack, List.length_append, List.length_cons] <;> omega

/-- **A use is read back** by as many levels as it has bytes, and by more. -/
theorem unpackWithin_pack : ∀ {t : TypeRef} {fuel : Nat}, t.toData.fits = true →
    (pack t).length ≤ fuel → ∀ rest, unpackWithin fuel (pack t ++ rest) = some (t, rest)
  | t, 0, _, hfuel, _ => absurd (length_pack_pos t) (Nat.not_lt.2 hfuel)
  | .named u, fuel + 1, h, _, rest => by
    have hu := TypeUse.reads h
    have hb := Codec.reads_bool false
    change unpackWithin _ (TypeUse.codec.encode u ++ Codec.bool.encode false ++ rest) = _
    simp only [unpackWithin, List.append_assoc, hu _, hb _, Option.bind_eq_bind, Option.bind_some]
    rfl
  | .function u r ps v c, fuel + 1, h, hfuel, rest => by
    have hu := TypeUse.reads h
    simp only [toData, formOf, Data.fits, Data.fitsFields, toDataList_eq_map, Bool.and_eq_true,
      decide_eq_true_eq, Data.fitsList_iff, List.length_map, List.forall_mem_map] at h
    obtain ⟨-, -, -, -, ⟨hr, ⟨hlen, hps⟩, -, hc, -⟩, -⟩ := h
    simp only [pack, List.length_append, List.length_cons, List.length_nil] at hfuel
    have hresult : ∀ rest, unpackWithin fuel (pack r ++ rest) = some (r, rest) :=
      unpackWithin_pack hr (by omega)
    have hparameters : ∀ p ∈ ps, ∀ rest, unpackWithin fuel (pack p ++ rest) = some (p, rest) :=
      fun p hp => unpackWithin_pack (hps p hp) (by have := length_pack_le_packList hp; omega)
    have hb := Codec.reads_bool true
    change unpackWithin _ (TypeUse.codec.encode u ++ Codec.bool.encode true ++ pack r ++
      Codec.length.encode ps.length ++ packList ps ++ Codec.bool.encode v ++
      CallingConvention.codec.encode c ++ rest) = _
    simp only [unpackWithin, packList_eq_flatMap, List.append_assoc, hu _, hb _, hresult,
      Codec.reads_length hlen _, Codec.decodeMany_flatMap hparameters, Codec.reads_bool v _,
      CallingConvention.reads hc _, Option.bind_eq_bind, Option.bind_some]
    rfl

theorem reads {t : TypeRef} (h : t.toData.fits = true) : codec.Reads t := fun rest => by
  refine unpackWithin_pack h ?_ rest
  change _ ≤ (pack t ++ rest).length + 1
  rw [List.length_append]
  omega

end TypeRef

/-! ### Entities -/

theorem Access.reads (a : Access) : codec.Reads a :=
  Codec.reads_oneOf (by cases a <;> decide) (by decide)

theorem Linkage.reads (l : Linkage) : codec.Reads l :=
  Codec.reads_oneOf (by cases l <;> decide) (by decide)

theorem Base.reads {b : Base} (h : b.toData.fits = true) : codec.Reads b := by
  simp only [toData, Data.fits, Data.fitsFields, Bool.and_eq_true] at h
  exact ((Uid.reads h.1).pair ((Codec.reads_uint64 _).pair
    ((Access.reads _).pair (Codec.reads_bool _)))).via rfl

theorem Field.reads {f : Field} (h : f.toData.fits = true) : codec.Reads f := by
  simp only [toData, decide_eq_true_eq, Data.fits, Data.fitsFields, Bool.and_eq_true] at h
  obtain ⟨hname, htype, -⟩ := h
  exact ((Codec.reads_text hname).pair ((TypeRef.reads htype).pair
    ((Codec.reads_uint64 _).pair ((Codec.reads_option fun n _ => Codec.reads_uint32 n).pair
      (Access.reads _))))).via rfl

theorem Slot.reads {s : Slot} (h : s.toData.fits = true) : codec.Reads s := by
  simp only [toData, decide_eq_true_eq, Data.fits, Data.fitsFields, Bool.and_eq_true] at h
  obtain ⟨-, hvalue, -⟩ := h
  have hkind : (Codec.oneOf SlotKind.all).Reads s.kind :=
    Codec.reads_oneOf (by cases s.kind <;> decide) (by decide)
  exact (hkind.pair ((Codec.reads_text hvalue).pair (Codec.reads_bool _))).via rfl

theorem TemplateOrigin.reads {t : TemplateOrigin} (h : t.toData.fits = true) :
    codec.Reads t := fun rest => by
  cases t with
  | plain => rfl
  | instantiation template arguments =>
    simp only [toData, decide_eq_true_eq, Data.fits_ofList, Data.fits, Data.fitsFields,
      Bool.and_eq_true] at h
    obtain ⟨htemplate, ⟨hlen, harguments⟩, -⟩ := h
    have hpair : (Codec.text.pair Codec.text.list).Reads (template, arguments) :=
      (Codec.reads_text htemplate).pair
        (Codec.reads_list hlen fun a ha => Codec.reads_text (harguments a ha))
    change ((Codec.text.pair Codec.text.list).decode
      ((Codec.text.pair Codec.text.list).encode (template, arguments) ++ rest)).map _ = _
    rw [hpair rest]
    rfl

theorem Record.reads {r : Record} (h : r.toData.fits = true) : codec.Reads r := by
  simp only [toData, decide_eq_true_eq, Data.fits_ofList, Data.fits, Data.fitsFields,
    Bool.and_eq_true] at h
  obtain ⟨hu, hn, -, -, -, ⟨hbs, hb⟩, ⟨hfs, hf⟩, ⟨hvs, hv⟩, ht, -⟩ := h
  have hkind : (Codec.oneOf RecordKind.all).Reads r.kind :=
    Codec.reads_oneOf (by cases r.kind <;> decide) (by decide)
  exact ((Uid.reads hu).pair ((Codec.reads_text hn).pair (hkind.pair
    ((Codec.reads_uint64 _).pair ((Codec.reads_uint64 _).pair
      ((Codec.reads_list hbs fun b hm => Base.reads (hb b hm)).pair
        ((Codec.reads_list hfs fun f hm => Field.reads (hf f hm)).pair
          ((Codec.reads_list hvs fun s hm => Slot.reads (hv s hm)).pair
            ((TemplateOrigin.reads ht).pair (Codec.reads_bool _)))))))))).via rfl

theorem EnumeratorValue.reads (v : EnumeratorValue) : codec.Reads v := fun rest => by
  cases v with
  | signed v =>
    change (Codec.int64.decode (Codec.int64.encode v ++ rest)).map _ = _
    rw [Codec.reads_int64 v rest]
    rfl
  | unsigned v =>
    change (Codec.uint64.decode (Codec.uint64.encode v ++ rest)).map _ = _
    rw [Codec.reads_uint64 v rest]
    rfl

theorem EnumType.reads {e : EnumType} (h : e.toData.fits = true) : codec.Reads e := by
  simp only [toData, Enumerator.toData, decide_eq_true_eq, Data.fits_ofList, Data.fits,
    Data.fitsFields, Bool.and_eq_true] at h
  obtain ⟨hu, hn, ht, ⟨hes, he⟩, -⟩ := h
  exact ((Uid.reads hu).pair ((Codec.reads_text hn).pair ((TypeRef.reads ht).pair
    (Codec.reads_list hes fun e hm =>
      ((Codec.reads_text (he e hm).1).pair (EnumeratorValue.reads _)).via rfl)))).via rfl

theorem Dispatch.reads (v : Dispatch) : codec.Reads v :=
  ((Codec.reads_uint32 _).pair (Codec.reads_bool _)).via rfl

theorem Function.reads {f : Function} (h : f.toData.fits = true) : codec.Reads f := by
  simp only [toData, decide_eq_true_eq, Data.fits_ofList, Data.fits, Data.fitsFields,
    Bool.and_eq_true] at h
  obtain ⟨hu, hn, hr, ⟨hps, hp⟩, -, hc, -, -, -, hparent, -⟩ := h
  have howner : Uid.codec.option.Reads f.parent := by
    refine Codec.reads_option fun p hsome => Uid.reads ?_
    rw [hsome] at hparent
    exact hparent
  exact ((Uid.reads hu).pair ((Codec.reads_text hn).pair ((TypeRef.reads hr).pair
    ((Codec.reads_list hps fun p hm => TypeRef.reads (hp p hm)).pair
      ((Codec.reads_bool _).pair ((CallingConvention.reads hc).pair ((Linkage.reads _).pair
        ((Access.reads _).pair ((Codec.reads_option fun v _ => v.reads).pair howner))))))))).via rfl

theorem GlobalVar.reads {g : GlobalVar} (h : g.toData.fits = true) : codec.Reads g := by
  simp only [toData, decide_eq_true_eq, Data.fits, Data.fitsFields, Bool.and_eq_true] at h
  obtain ⟨hu, hn, ht, -⟩ := h
  exact ((Uid.reads hu).pair ((Codec.reads_text hn).pair ((TypeRef.reads ht).pair
    (Linkage.reads _)))).via rfl

end HeaderAbi
