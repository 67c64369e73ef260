import HeaderAbi.Proofs.Entity.Written
import HeaderAbi.Proofs.Json.Reading
import HeaderAbi.Proofs.Packed.Codec
import HeaderAbi.Proofs.Snapshot.Agreement
import HeaderAbi.Proofs.TypeRef.Declarator

/-!
# The canonical text

The text below a fingerprint has neither lengths nor separators, and yet it tells what a snapshot
holds.  An entity is written as an object, whose text begins no other value, so the entities of one
category are told apart; the key of the next category begins with a letter, so no entity is taken
for it.

* `Table.canonicalText_append_inj`: the text of a category tells its entities and where it ends.
* `Snapshot.canonicalText_eq_iff`: the text tells which entities a snapshot holds.
* `Snapshot.canonicalBytes_eq_iff`: so do its bytes, and only the checksum can confuse two
  snapshots.
-/

namespace HeaderAbi

open Data

/-! ### Entities in the text -/

/-- Entities written as objects from which they are read back. -/
structure Legible (α : Type) [Entity α] : Prop where
  exists_fields : ∀ a : α, ∃ fs, Entity.toData a = .object fs
  isWritten : ∀ a : α, (Entity.toData a).isWritten = true
  exists_reader : ∃ read : Data → Option α, ∀ a, read (Entity.toData a).asJson = some a

theorem Record.legible : Legible Record :=
  ⟨fun _ => ⟨_, rfl⟩, isWritten_toData, ofData?, ofData?_toData faithful_asJson⟩

theorem EnumType.legible : Legible EnumType :=
  ⟨fun _ => ⟨_, rfl⟩, isWritten_toData, ofData?, ofData?_toData faithful_asJson⟩

theorem Function.legible : Legible Function :=
  ⟨fun _ => ⟨_, rfl⟩, isWritten_toData, ofData?, ofData?_toData faithful_asJson⟩

theorem GlobalVar.legible : Legible GlobalVar :=
  ⟨fun _ => ⟨_, rfl⟩, isWritten_toData, ofData?, ofData?_toData faithful_asJson⟩

/-- The text of an entity in a canonical text. -/
def pieceOf {α : Type} [Entity α] (a : α) : List Char :=
  (Json.compact (Entity.toData a)).toList

namespace Legible

variable {α : Type} [Entity α] (hα : Legible α)
include hα

theorem eq_of_asJson_eq {a b : α} (h : (Entity.toData a).asJson = (Entity.toData b).asJson) :
    a = b := by
  obtain ⟨read, hread⟩ := hα.exists_reader
  exact Option.some.inj (by rw [← hread a, h, hread b])

theorem exists_piece (a : α) : ∃ cs, pieceOf a = '{' :: cs := by
  obtain ⟨fs, h⟩ := hα.exists_fields a
  exact ⟨_, by simp [pieceOf, h, Json.compact]; rfl⟩

/-- **No entity's text begins another's.** -/
theorem eq_of_prefix {a b : α} (h : pieceOf a <+: pieceOf b) : a = b := by
  obtain ⟨fs, hfs⟩ := hα.exists_fields a
  have hwritten := hα.isWritten a
  rw [pieceOf, hfs] at h
  rw [hfs] at hwritten
  have hdata := Json.asJson_eq_of_prefix hwritten (hα.isWritten b) h
  exact hα.eq_of_asJson_eq (hfs ▸ hdata)

/-- An entity's text is not taken for what begins otherwise. -/
theorem not_prefix {a : α} {cs : List Char} (hcs : cs.head? ≠ some '{') : ¬ pieceOf a <+: cs := by
  rintro ⟨rest, rfl⟩
  obtain ⟨ds, h⟩ := hα.exists_piece a
  exact hcs (by rw [h]; rfl)

/-- Entities one after the other are told apart. -/
theorem pieces_inj {as bs : List α} {cs ds : List Char} (hcs : cs.head? ≠ some '{')
    (hds : ds.head? ≠ some '{') (h : as.flatMap pieceOf ++ cs = bs.flatMap pieceOf ++ ds) :
    as = bs ∧ cs = ds :=
  Spelling.flatMap_inj
    (fun _ _ _ _ hab => hab.elim hα.eq_of_prefix fun hba => (hα.eq_of_prefix hba).symm)
    (fun _ _ => hα.not_prefix hcs) (fun _ _ => hα.not_prefix hds) h

end Legible

/-! ### Categories in the text -/

namespace Table

variable {α : Type} [Entity α]

theorem toList_canonicalText (t : Table α) : t.canonicalText.toList =
    (Entity.category α).key.toList ++ t.sorted.flatMap pieceOf := by
  rw [canonicalText, String.toList_append, String.toList_join, List.flatMap_map]
  rfl

/-- The text of a category begins with its key. -/
theorem head?_canonicalText_append (t : Table α) (cs : List Char) :
    (t.canonicalText.toList ++ cs).head? ≠ some '{' := by
  rw [toList_canonicalText, List.append_assoc]
  cases Entity.category α <;> exact ne_of_beq_false rfl

/-- **The text of a category** tells its entities and where it ends. -/
theorem canonicalText_append_inj (hα : Legible α) {t t' : Table α} {cs ds : List Char}
    (hcs : cs.head? ≠ some '{') (hds : ds.head? ≠ some '{')
    (h : t.canonicalText.toList ++ cs = t'.canonicalText.toList ++ ds) :
    t.Agrees t' ∧ cs = ds := by
  rw [toList_canonicalText, toList_canonicalText, List.append_assoc, List.append_assoc] at h
  obtain ⟨hsorted, hrest⟩ := hα.pieces_inj hcs hds (List.append_cancel_left h)
  exact ⟨agrees_of_sorted_eq hsorted, hrest⟩

theorem canonicalText_congr {t t' : Table α} (h : t.Agrees t') :
    t.canonicalText = t'.canonicalText := by
  rw [canonicalText, canonicalText, sorted_congr h]

end Table

namespace Snapshot

variable {s t : Snapshot}

theorem toList_canonicalText (s : Snapshot) : s.canonicalText.toList =
    s.records.canonicalText.toList ++ (s.enums.canonicalText.toList ++
      (s.functions.canonicalText.toList ++ (s.globals.canonicalText.toList ++ []))) := by
  simp [canonicalText]

/-- **The canonical text tells which entities a snapshot holds**, and nothing else. -/
theorem canonicalText_eq_iff : s.canonicalText = t.canonicalText ↔ s.Agrees t := by
  constructor
  · intro h
    have hlist := congrArg String.toList h
    rw [toList_canonicalText, toList_canonicalText] at hlist
    obtain ⟨hrecords, hlist⟩ := Table.canonicalText_append_inj Record.legible
      (Table.head?_canonicalText_append _ _) (Table.head?_canonicalText_append _ _) hlist
    obtain ⟨henums, hlist⟩ := Table.canonicalText_append_inj EnumType.legible
      (Table.head?_canonicalText_append _ _) (Table.head?_canonicalText_append _ _) hlist
    obtain ⟨hfunctions, hlist⟩ := Table.canonicalText_append_inj Function.legible
      (Table.head?_canonicalText_append _ _) (Table.head?_canonicalText_append _ _) hlist
    obtain ⟨hglobals, -⟩ := Table.canonicalText_append_inj GlobalVar.legible (by simp) (by simp)
      hlist
    exact ⟨hrecords, henums, hfunctions, hglobals⟩
  · intro h
    rw [canonicalText, canonicalText, Table.canonicalText_congr h.records,
      Table.canonicalText_congr h.enums, Table.canonicalText_congr h.functions,
      Table.canonicalText_congr h.globals]

/-- Texts are told by their bytes, behind the version too. -/
theorem canonicalBytes_eq_canonicalBytes_iff :
    s.canonicalBytes = t.canonicalBytes ↔ s.canonicalText = t.canonicalText := by
  constructor
  · intro h
    have hdata := congrArg (fun bytes => bytes.data.toList) h
    simp only [canonicalBytes, ByteArray.data_append, Array.toList_append] at hdata
    have htext : s.canonicalText.toUTF8 = t.canonicalText.toUTF8 :=
      ByteArray.ext (Array.toList_inj.1 (List.append_cancel_left hdata))
    exact Option.some.inj (by rw [← fromUTF8?_toUTF8, htext, fromUTF8?_toUTF8])
  · intro h
    rw [canonicalBytes, canonicalBytes, h]

/-- **The bytes below a fingerprint are equal exactly for snapshots that agree**, so snapshots that
do not agree have one fingerprint only where the checksum takes one value on different bytes. -/
theorem canonicalBytes_eq_iff (s t : Snapshot) :
    (s.canonicalBytes = t.canonicalBytes ↔ s.Agrees t) ∧
      (s.fingerprint = t.fingerprint ↔ s.Agrees t ∨
        s.canonicalBytes ≠ t.canonicalBytes ∧
          checksum s.canonicalBytes = checksum t.canonicalBytes) := by
  have hbytes : s.canonicalBytes = t.canonicalBytes ↔ s.Agrees t :=
    canonicalBytes_eq_canonicalBytes_iff.trans canonicalText_eq_iff
  refine ⟨hbytes, fun h => ?_, ?_⟩
  · by_cases hagrees : s.Agrees t
    · exact .inl hagrees
    · exact .inr ⟨fun hb => hagrees (hbytes.1 hb), h⟩
  · rintro (hagrees | ⟨-, hsum⟩)
    · exact hagrees.fingerprint_eq
    · exact hsum

end Snapshot

end HeaderAbi
