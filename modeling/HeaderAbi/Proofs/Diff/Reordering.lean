import HeaderAbi.Proofs.Diff.Equivalence
import HeaderAbi.Proofs.Diff.Leftover
import HeaderAbi.Proofs.Diff.Unchanged
import Mathlib.Data.List.Forall2

/-!
# Reordered fields

What a comparison says of a record whose fields have only been declared in another order.

* Of the items of one key, pairing takes the first with the first, the second with the second, and
  so on (`FieldPairing.pairFirst_filter`).
* So fields are paired within their name and offset, in the order of declaration, and a record with
  reordered fields has no changes exactly when fields that share both keep their order
  (`RecordChange.ofFieldLists_eq_nil_iff`).
* **A reordered record is reported exactly when fields that share both name and offset change places
  and are not alike** (`Snapshot.reordered_reported_iff`).  Only members of a union and fields that
  take no room can do that (`Contents.SoundLayout.keepsOrder`); two unnamed members of a union do
  (`Snapshot.exists_reordered_reported`).
-/

namespace HeaderAbi

namespace FieldPairing

variable {α κ : Type}

/-! ### Pairing items of one key -/

theorem filter_eq_cons_of_find? {test : α → Bool} {as : List α} {a : α}
    (h : as.find? test = some a) : as.filter test = a :: (as.eraseP test).filter test := by
  induction as with
  | nil => cases h
  | cons b bs ih =>
    cases hb : test b with
    | true =>
      obtain rfl : b = a := by simpa [hb] using h
      simp [hb]
    | false =>
      have hbs : bs.find? test = some a := by simpa [hb] using h
      simpa [hb] using ih hbs

theorem filter_eraseP_of_forall {test other : α → Bool} {as : List α}
    (h : ∀ a, test a = true → other a = false) : (as.eraseP test).filter other = as.filter other := by
  induction as with
  | nil => rfl
  | cons b bs ih =>
    cases hb : test b with
    | true => simp [hb, h b hb]
    | false => simp [hb, List.filter_cons, ih]

section Keyed
variable [DecidableEq κ] {suits : α → α → Bool} {key : α → κ}
  (h : ∀ a b, suits a b = true ↔ key b = key a)
include h

/-- **The items of one key are paired in order.** -/
theorem pairFirst_filter (as bs : List α) (k : κ) :
    (pairFirst suits as bs).1.filter (fun p => key p.1 == k) =
      (as.filter (key · == k)).zip (bs.filter (key · == k)) := by
  have htest : ∀ a, suits a = (key · == key a) := fun a =>
    funext fun b => Bool.eq_iff_iff.2 (by simp [h])
  induction as generalizing bs with
  | nil => rfl
  | cons a as ih =>
    rw [pairFirst, takeFirst_eq_map_find?, htest]
    cases hfind : bs.find? (key · == key a) with
    | some b =>
      simp only [Option.map_some, List.filter_cons, ih]
      by_cases hk : key a = k
      · subst hk
        simp only [beq_self_eq_true, if_true, filter_eq_cons_of_find? hfind, List.zip_cons_cons]
      · have hrest : (bs.eraseP (key · == key a)).filter (key · == k) = bs.filter (key · == k) := by
          refine filter_eraseP_of_forall fun b hb => ?_
          rw [beq_iff_eq] at hb
          simp [hb, hk]
        simp only [beq_eq_false_iff_ne.2 hk, Bool.false_eq_true, if_false, hrest]
    | none =>
      simp only [Option.map_none, ih, List.filter_cons]
      by_cases hk : key a = k
      · subst hk
        have hnone : bs.filter (key · == key a) = [] :=
          List.filter_eq_nil_iff.2 fun b hb => List.find?_eq_none.1 hfind b hb
        simp only [hnone, List.zip_nil_right]
      · simp only [beq_eq_false_iff_ne.2 hk, Bool.false_eq_true, if_false]

/-- Lists with the same keys leave nothing over. -/
theorem pairFirst_leftover_of_perm {as bs : List α} (hkeys : (as.map key).Perm (bs.map key)) :
    (pairFirst suits as bs).2 = ([], []) := by
  have hself : ∀ as : List α, surplus key as (as.map key) = [] := by
    intro as
    induction as with
    | nil => rfl
    | cons a as ih => simpa [surplus] using ih
  refine Prod.ext ?_ ?_
  · rw [pairFirst_alone h, ← surplus_perm hkeys, hself]
  · rw [pairFirst_free h, surplus_perm hkeys, hself]

end Keyed

/-- Lists of one length have equal values in order exactly when their pairs do. -/
theorem forall_mem_zip_iff {β : Type} (f : α → β) {as bs : List α} (h : as.length = bs.length) :
    (∀ p ∈ as.zip bs, f p.2 = f p.1) ↔ as.map f = bs.map f := by
  rw [← List.forall₂_eq_eq_eq, List.forall₂_map_left_iff, List.forall₂_map_right_iff,
    List.forall₂_iff_zip, and_iff_right h]
  constructor
  · intro hall a b hab
    exact (hall _ hab).symm
  · intro hall p hp
    exact (hall hp).symm

/-! ### Fields at one place -/

/-- The fields of a name at an offset, in the order of declaration. -/
def fieldsAt (name : String) (offset : UInt64) (fields : List Field) : List Field :=
  (fields.filter (·.name == name)).filter (·.offsetBits == offset)

/-- Fields that share both name and offset stand in the same order in both lists. -/
def KeepsOrder (old new : List Field) : Prop :=
  ∀ name offset, fieldsAt name offset old = fieldsAt name offset new

/-- Fields that are told apart by name and offset keep their order. -/
theorem keepsOrder_of_alike {old new : List Field} (h : new.Perm old)
    (halike : ∀ f ∈ old, ∀ g ∈ old, f.name = g.name → f.offsetBits = g.offsetBits → f = g) :
    KeepsOrder old new := by
  intro name offset
  have hperm : (fieldsAt name offset new).Perm (fieldsAt name offset old) :=
    (h.filter _).filter _
  have hmem : ∀ {f}, f ∈ fieldsAt name offset old →
      f ∈ old ∧ f.name = name ∧ f.offsetBits = offset := by
    intro f hf
    simp only [fieldsAt, List.mem_filter, beq_iff_eq] at hf
    exact ⟨hf.1.1, hf.1.2, hf.2⟩
  have hall : ∀ fs : List Field, fs.Pairwise fun _ _ => True := fun _ =>
    List.pairwise_of_forall fun _ _ => trivial
  refine hperm.symm.eq_of_pairwise (fun f g hf hg _ _ => ?_) (hall _) (hall _)
  obtain ⟨hf, hfname, hfoffset⟩ := hmem hf
  obtain ⟨hg, hgname, hgoffset⟩ := hmem (hperm.mem_iff.1 hg)
  exact halike f hf g hg (hfname.trans hgname.symm) (hfoffset.trans hgoffset.symm)

theorem map_field_filter_place (test : Field → Bool) (fields : List Field) :
    ((place fields).filter fun p => test p.field).map Placed.field = fields.filter test := by
  have hfilter := List.filter_map (f := Placed.field) (p := test) (l := place fields)
  rw [map_field_place] at hfilter
  exact hfilter.symm

/-- The fields of one name, with their places. -/
abbrev namedPlaces (name : String) (fields : List Field) : List Placed :=
  (place fields).filter (·.field.name == name)

theorem map_field_namedPlaces (name : String) (offset : UInt64) (fields : List Field) :
    ((namedPlaces name fields).filter (·.field.offsetBits == offset)).map Placed.field =
      fieldsAt name offset fields := by
  simp only [fieldsAt, namedPlaces, List.filter_filter]
  exact map_field_filter_place (fun f => f.offsetBits == offset && f.name == name) fields

section Reordered
variable {old new : List Field} (h : new.Perm old)
include h

theorem offsets_perm (name : String) :
    ((namedPlaces name old).map (·.field.offsetBits)).Perm
      ((namedPlaces name new).map (·.field.offsetBits)) := by
  have hfields : ((namedPlaces name old).map Placed.field).Perm
      ((namedPlaces name new).map Placed.field) := by
    rw [map_field_filter_place (·.name == name), map_field_filter_place (·.name == name)]
    exact (h.filter _).symm
  have hoffsets := hfields.map Field.offsetBits
  simpa only [List.map_map, Function.comp_def] using hoffsets

/-- A name leaves nothing over, and its fields are paired by offset. -/
theorem groupOf_of_perm (name : String) :
    groupOf old new name = { matched := (pairFirst
      (fun o n : Placed => n.field.offsetBits == o.field.offsetBits)
      (namedPlaces name old) (namedPlaces name new)).1 } := by
  have hleft := pairFirst_leftover_of_perm suits_iff_offset_eq (offsets_perm h name)
  simp only [groupOf, ofGroup, hleft, List.zip_nil_left, List.append_nil, List.drop_nil]

/-- The fields of a name are paired with their like exactly when those at one offset keep their
order. -/
theorem groupOf_alike_iff (name : String) :
    (∀ p ∈ (groupOf old new name).matched, p.2.field = p.1.field) ↔
      ∀ offset, fieldsAt name offset old = fieldsAt name offset new := by
  have hpairs : ∀ offset, (∀ p ∈ (groupOf old new name).matched,
      p.1.field.offsetBits = offset → p.2.field = p.1.field) ↔
        fieldsAt name offset old = fieldsAt name offset new := by
    intro offset
    have hlength : ((namedPlaces name old).filter (·.field.offsetBits == offset)).length =
        ((namedPlaces name new).filter (·.field.offsetBits == offset)).length := by
      have hcount := ((offsets_perm h name).filter (· == offset)).length_eq
      simpa only [List.filter_map, List.length_map, Function.comp_def] using hcount
    rw [← map_field_namedPlaces, ← map_field_namedPlaces, ← forall_mem_zip_iff _ hlength,
      ← pairFirst_filter suits_iff_offset_eq, groupOf_of_perm h]
    simp only [List.mem_filter, beq_iff_eq, and_imp]
  constructor
  · intro hall offset
    exact (hpairs offset).1 fun p hp _ => hall p hp
  · intro hall p hp
    exact (hpairs _).2 (hall _) p hp rfl

/-- **No field of a reordered record is without partner.** -/
theorem ofFields_leftover_of_perm :
    (ofFields old new).removed = [] ∧ (ofFields old new).added = [] := by
  have hgroup : ∀ name, (groupOf old new name).removed = [] ∧ (groupOf old new name).added = [] :=
    fun name => by simp [groupOf_of_perm h name]
  constructor <;> simp [ofFields, List.eq_nil_iff_forall_not_mem, hgroup]

end Reordered

theorem mem_matched_iff {old new : List Field} {p : Placed × Placed} :
    p ∈ (ofFields old new).matched ↔ ∃ name, p ∈ (groupOf old new name).matched := by
  simp only [ofFields, List.mem_mergeSort, List.flatMap_map, List.mem_flatMap]
  constructor
  · rintro ⟨name, -, hp⟩
    exact ⟨name, hp⟩
  · rintro ⟨name, hp⟩
    have hold : p.1 ∈ namedPlaces name old :=
      (ofGroup_perm_old _ _).mem_iff.1 (List.mem_append_left _ (List.mem_map_of_mem hp))
    obtain ⟨hplace, hname⟩ := List.mem_filter.1 hold
    refine ⟨name, ?_, hp⟩
    rw [List.mem_eraseDups, ← beq_iff_eq.1 hname]
    exact List.mem_map_of_mem (List.mem_append_left _ (field_mem_of_mem_place hplace))

end FieldPairing

/-! ### Changes -/

namespace RecordChange

open FieldPairing

/-- The fields of a pair have no changes exactly when they are alike. -/
theorem ofFields_eq_nil_iff {old new : List Field} {p : Placed × Placed}
    (h : p ∈ (FieldPairing.ofFields old new).matched) :
    ofFields p.1.field p.2.field = [] ↔ p.2.field = p.1.field := by
  constructor
  · intro hnil
    obtain ⟨hoffset, hwidth, htype, haccess⟩ := agree_of_ofFields_eq_nil hnil
    have hname : p.2.field.name = p.1.field.name := name_eq_of_mem_matched h
    cases ho : p.1.field
    cases hn : p.2.field
    simp_all
  · intro heq
    simp [ofFields, when, heq]

/-- **Reordered fields have no changes** exactly when those that share name and offset keep their
order. -/
theorem ofFieldLists_eq_nil_iff {old new : List Field} (h : new.Perm old) :
    ofFieldLists old new = [] ↔ KeepsOrder old new := by
  obtain ⟨hremoved, hadded⟩ := ofFields_leftover_of_perm h
  simp only [ofFieldLists, renamings, hremoved, hadded, pairFirst, List.map_nil, List.append_nil,
    List.flatMap_eq_nil_iff, KeepsOrder, ← groupOf_alike_iff h]
  constructor
  · intro hnil name p hp
    have hmem := mem_matched_iff.2 ⟨name, hp⟩
    exact (ofFields_eq_nil_iff hmem).1 (hnil p hmem)
  · intro halike p hp
    obtain ⟨name, hmem⟩ := mem_matched_iff.1 hp
    exact (ofFields_eq_nil_iff hp).2 (halike name p hmem)

end RecordChange

theorem Record.changes_reordered {r : Record} (h : r.isOpaque = false) (fields : List Field) :
    r.changes { r with fields } = RecordChange.ofFieldLists r.fields fields := by
  simp [changes, layoutChanges, RecordChange.when, h]

/-- In a record that is no union, fields that take room keep their order. -/
theorem Contents.SoundLayout.keepsOrder {c : Contents} {r : Record} (h : c.SoundLayout r)
    (hunion : r.isUnion = false) (hroom : ∀ f ∈ r.fields, f.offsetBits < c.fieldEnd f)
    {fields : List Field} (hperm : fields.Perm r.fields) :
    FieldPairing.KeepsOrder r.fields fields := by
  refine FieldPairing.keepsOrder_of_alike hperm ?_
  have hlater : ∀ i j (hij : i < j) (hj : j < r.fields.length),
      r.fields[i].offsetBits ≠ r.fields[j].offsetBits := by
    intro i j hij hj hoffset
    have hstart := UInt64.lt_iff_toNat_lt.1 (hroom _ (List.getElem_mem (hij.trans hj)))
    have hend := UInt64.le_iff_toNat_le.1 (h.apart hunion i j hij hj).2
    rw [← hoffset] at hend
    omega
  intro f hf g hg _ hoffset
  obtain ⟨i, hi, rfl⟩ := List.mem_iff_getElem.1 hf
  obtain ⟨j, hj, rfl⟩ := List.mem_iff_getElem.1 hg
  rcases lt_trichotomy i j with hij | rfl | hij
  · exact absurd hoffset (hlater i j hij hj)
  · rfl
  · exact absurd hoffset.symm (hlater j i hij hi)

namespace Snapshot

/-- **A record that differs in the order of its fields alone is reported** exactly when fields that
share both name and offset, and are not alike, have changed places. -/
theorem reordered_reported_iff (m : Matching) (ignored : Uid → Bool) {old new : Snapshot}
    {r : Record} {fields : List Field} (hold : r ∈ old.records.entries)
    (hnew : { r with fields } ∈ new.records.entries) (hcomplete : r.isOpaque = false)
    (hperm : fields.Perm r.fields) :
    (∃ e ∈ (compare m ignored old new).entries, e.key = (.records, r.uid)) ↔
      ignored r.uid = false ∧ ¬ FieldPairing.KeepsOrder r.fields fields := by
  have ho : Item.record r ∈ old.contents.items := Contents.record_mem_items.2 hold
  have hn : Item.record { r with fields } ∈ new.contents.items := Contents.record_mem_items.2 hnew
  have hfound : ∀ e, Found m old new e ∧ e.key = (.records, r.uid) ↔
      e ∈ (Item.record r).changes (.record { r with fields }) :=
    fun _ => found_common_iff ho hn rfl
  have hchanges : (Item.record r).changes (.record { r with fields }) = [] ↔
      FieldPairing.KeepsOrder r.fields fields := by
    rw [Item.changes, List.map_eq_nil_iff, Record.changes_reordered hcomplete,
      RecordChange.ofFieldLists_eq_nil_iff hperm]
  constructor
  · rintro ⟨e, he, hkey⟩
    obtain ⟨-, hshown, hentry⟩ := mem_compare_iff.1 he
    have huid : e.uid = r.uid := congrArg Prod.snd hkey
    refine ⟨huid ▸ hshown, fun hkeeps => ?_⟩
    have hmem := (hfound e).1 ⟨hentry, hkey⟩
    rw [hchanges.2 hkeeps] at hmem
    exact List.not_mem_nil hmem
  · rintro ⟨hshown, hkeeps⟩
    obtain ⟨e, he⟩ := List.exists_mem_of_ne_nil _ (mt hchanges.1 hkeeps)
    obtain ⟨hentry, hkey⟩ := (hfound e).2 he
    have huid : e.uid = r.uid := congrArg Prod.snd hkey
    refine ⟨e, mem_compare_iff.2 ⟨fun hagree => hkeeps ?_, huid ▸ hshown, hentry⟩, hkey⟩
    -- snapshots that agree hold the record with its fields in one order only
    have hsame := Table.eq_of_uid_eq (hagree.records.mem_iff.1 hold) hnew rfl
    have hfields : r.fields = fields := congrArg Record.fields hsame
    exact fun _ _ => hfields ▸ rfl

end Snapshot

/-! ### Unnamed members of a union -/

/-- A union of an unnamed whole number and an unnamed floating-point number. -/
def overlaid : Record where
  uid := ⟨"Overlaid"⟩
  name := "Overlaid"
  kind := .union
  sizeBits := 32
  alignBits := 32
  fields := [⟨"", .ofName "int", 0, none, .everyone⟩, ⟨"", .ofName "float", 0, none, .everyone⟩]

/-- A snapshot with the union alone. -/
def overlay : Snapshot where
  contents := { Contents.empty with records := ⟨[overlaid], List.nodup_singleton _⟩ }
  sound := by decide

/-- The same with the members declared in the other order. -/
def overlayReordered : Snapshot where
  contents := { Contents.empty with records :=
    ⟨[{ overlaid with fields := overlaid.fields.reverse }], List.nodup_singleton _⟩ }
  sound := by decide

theorem not_keepsOrder_overlaid :
    ¬ FieldPairing.KeepsOrder overlaid.fields overlaid.fields.reverse := fun h =>
  absurd (h "" 0) (by decide)

namespace Snapshot

theorem reordered_reported_overlaid :
    overlaid.fields.reverse.Perm overlaid.fields ∧
      ∃ e ∈ (compare .byUid (fun _ => false) overlay overlayReordered).entries,
        e.key = (.records, overlaid.uid) := by
  have hold : overlaid ∈ overlay.records.entries := by decide
  have hnew : { overlaid with fields := overlaid.fields.reverse } ∈
      overlayReordered.records.entries := by decide
  have hperm : overlaid.fields.reverse.Perm overlaid.fields := List.reverse_perm _
  exact ⟨hperm, (reordered_reported_iff .byUid (fun _ => false) hold hnew rfl hperm).2
    ⟨rfl, not_keepsOrder_overlaid⟩⟩

/-- A record may be reported, and as breaking, for the order of its fields alone. -/
theorem exists_reordered_reported : ∃ (old new : Snapshot) (r : Record) (fields : List Field),
    r ∈ old.records.entries ∧ { r with fields } ∈ new.records.entries ∧ r.isOpaque = false ∧
      fields.Perm r.fields ∧ ∃ e ∈ (compare .byUid (fun _ => false) old new).entries,
        e.key = (.records, r.uid) ∧ e.isBreaking = true := by
  refine ⟨overlay, overlayReordered, overlaid, overlaid.fields.reverse, by decide, by decide, rfl,
    List.reverse_perm _, ?_⟩
  have hentries : ((compare .byUid (fun _ => false) overlay overlayReordered).entries.any fun e =>
      e.key == (.records, overlaid.uid) && e.isBreaking) = true := by
    simp only [compare_eq_insertionSort, recordEntries, Record.changes, Record.layoutChanges,
      RecordChange.ofFieldLists, FieldPairing.ofFields_eq_insertionSort]
    decide +kernel
  simpa using hentries

end Snapshot

end HeaderAbi
