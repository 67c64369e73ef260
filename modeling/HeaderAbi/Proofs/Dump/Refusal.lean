import HeaderAbi.Proofs.Dump.Blank
import HeaderAbi.Proofs.Dump.Normalization

/-!
# What dumps are refused for

Bytes that are read as a dump may say a version (`DeclaresVersion`) and may hold a document
(`Carries`), and a document describes a snapshot or none.  Each of these is judged in its turn.

* A version other than 1 is unsupported, whatever the rest of the bytes is.
* Everything else that is wrong makes the dump malformed.

**So a dump is read, unsupported or malformed** (`Snapshot.decodeAs_outcome`); no other error
comes out.  The version in a text is an integer of 64 bits: a greater one counts as none
(`Snapshot.not_forall_unsupported`).
-/

namespace HeaderAbi

/-! ### Versions -/

theorem contains_supportedVersions_iff {version : UInt32} :
    supportedVersions.contains version = true ↔ version.toNat = 1 := by
  rw [supportedVersions, List.contains_iff_mem, List.mem_singleton, ← UInt32.toNat_inj]
  rfl

theorem toNat_clampVersion (n : Nat) : (clampVersion n).toNat = min n 0xFFFFFFFF := by
  rw [clampVersion, UInt32.toNat_ofNat']
  omega

theorem contains_clampVersion_iff {n : Nat} :
    supportedVersions.contains (clampVersion n) = true ↔ n = 1 := by
  rw [contains_supportedVersions_iff, toNat_clampVersion]
  omega

theorem ofLittleEndian_lt (bytes : List UInt8) : ofLittleEndian bytes < 256 ^ bytes.length := by
  induction bytes with
  | nil => exact Nat.one_pos
  | cons b bytes ih =>
    have hb := b.toNat_lt
    rw [ofLittleEndian, List.length_cons, Nat.pow_succ]
    omega

theorem mem_of_mapM_eq_some {α β : Type} {f : α → Option β} {as : List α} {bs : List β}
    (h : as.mapM f = some bs) {a : α} {b : β} (ha : a ∈ as) (hb : f a = some b) : b ∈ bs := by
  induction as generalizing bs with
  | nil => cases ha
  | cons c as ih =>
    rw [List.mapM_cons] at h
    obtain ⟨c', hc, h⟩ := Option.bind_eq_some_iff.1 h
    obtain ⟨cs, hcs, h⟩ := Option.bind_eq_some_iff.1 h
    obtain rfl := Option.some.inj h
    obtain rfl | ha := List.mem_cons.1 ha
    · obtain rfl := Option.some.inj (hc.symm.trans hb)
      exact List.mem_cons_self
    · exact List.mem_cons_of_mem _ (ih hcs ha)

namespace Data

theorem asNat?_of_asUInt32? {d : Data} {v : UInt32} (h : d.asUInt32? = some v) :
    d.asNat? = some v.toNat := by
  obtain ⟨n, hn, hv⟩ := Option.bind_eq_some_iff.1 h
  split at hv
  · next hlt =>
    obtain rfl := Option.some.inj hv
    rw [hn, UInt32.toNat_ofNat_of_lt' hlt]
  · cases hv

theorem read_of_required {α : Type} {fs : Fields} {key : String} {read : Data → Option α} {a : α}
    (h : required fs key read = some a) {d : Data} (hd : (key, d) ∈ fs) : read d = some a := by
  have hmem : (key, d) ∈ fs.filter (·.1 == key) := List.mem_filter.2 ⟨hd, by simp⟩
  unfold required at h
  split at h
  · next heq =>
    rw [heq, List.mem_singleton] at hmem
    cases hmem
    exact h
  · cases h

/-- A list says no version, so data that say one name their fields. -/
theorem fieldsOf?_eq_fields? {d : Data} {key : String} {n : Nat} (names : List String)
    (h : d.versionField? key = some n) : d.fieldsOf? names = d.fields? := by
  cases d with
  | list items => cases h
  | _ => rfl

/-- **The version that is judged is the version that is read.** -/
theorem toNat_eq_of_versionField? {d : Data} {fs : Fields} {key : String} {v : UInt32} {n : Nat}
    (hfields : d.fields? = some fs) (hread : required fs key asUInt32? = some v)
    (h : d.versionField? key = some n) : v.toNat = n := by
  have hfield : ∀ {value : Data}, (key, value) ∈ fs → value.asNat? = some n → v.toNat = n := by
    intro value hvalue hn
    have hv := asNat?_of_asUInt32? (read_of_required hread hvalue)
    exact Option.some.inj (hv.symm.trans hn)
  fun_induction versionField? key d with
  | case1 fields =>
    obtain ⟨value, hvalue, hn⟩ := Option.bind_eq_some_iff.1 h
    obtain ⟨⟨k, _⟩, hfind, rfl⟩ := Option.map_eq_some_iff.1 hvalue
    obtain rfl : k = key := by simpa using List.find?_some hfind
    cases hfields
    exact hfield (List.mem_of_find?_eq_some hfind) hn
  | case2 entries =>
    obtain ⟨value, hvalue, hn⟩ := Option.bind_eq_some_iff.1 h
    obtain ⟨⟨k, _⟩, hfind, rfl⟩ := Option.map_eq_some_iff.1 hvalue
    have hk := List.find?_some hfind
    split at hk
    · next s heq =>
      cases heq
      obtain rfl : s = key := beq_iff_eq.1 hk
      exact hfield (mem_of_mapM_eq_some hfields (List.mem_of_find?_eq_some hfind) rfl) hn
    · cases hk
  | case3 tag content ih => exact ih hfields h
  | case4 => cases h

end Data

/-! ### Judgements -/

/-- What becomes of bytes that may say a version and may hold something to be read: a version other
than 1 is unsupported, and without anything to be read they are malformed. -/
inductive Judged {α : Type} (declares : Nat → Prop) (holds : α → Prop) : Except Error α → Prop where
  | unsupported {n : Nat} : declares n → n ≠ 1 →
    Judged declares holds (.error (Document.unsupported (clampVersion n)))
  | malformed {context : String} {reason : Malformed} : (∀ n, declares n → n = 1) →
    (declares 1 → ∀ a, ¬ holds a) → Judged declares holds (.error (.dump context (.malformed reason)))
  | read {a : α} : declares 1 → holds a → Judged declares holds (.ok a)

namespace Judged

variable {α : Type} {declares : Nat → Prop} {holds : α → Prop} {r : Except Error α}
  (h : Judged declares holds r)
include h

theorem isDumpError {e : Error} (he : r = .error e) : e.isDumpError = true := by
  subst he
  cases h <;> rfl

theorem eq_unsupported (honly : ∀ m n, declares m → declares n → m = n) {n : Nat}
    (hn : declares n) (hne : n ≠ 1) : r = .error (Document.unsupported (clampVersion n)) := by
  cases h with
  | unsupported hm _ => rw [honly _ _ hm hn]
  | malformed hall _ => exact absurd (hall n hn) hne
  | read hone _ => exact absurd (honly _ _ hn hone) hne

theorem eq_malformed (hall : ∀ n, declares n → n = 1) {e : Error} (he : r = .error e) :
    ∃ context reason, e = .dump context (.malformed reason) := by
  subst he
  cases h with
  | unsupported hn hne => exact absurd (hall _ hn) hne
  | malformed _ _ => exact ⟨_, _, rfl⟩

theorem eq_ok_iff (honly : ∀ m n, declares m → declares n → m = n)
    (hunique : ∀ a b, holds a → holds b → a = b) {a : α} : r = .ok a ↔ declares 1 ∧ holds a := by
  constructor
  · rintro rfl
    cases h with
    | read hone ha => exact ⟨hone, ha⟩
  · rintro ⟨hone, ha⟩
    cases h with
    | unsupported hn hne => exact absurd (honly _ _ hn hone) hne
    | malformed _ hnone => exact absurd ha (hnone hone a)
    | read _ hb => rw [hunique _ _ hb ha]

end Judged

/-! ### Declarations and contents -/

/-- The data that bytes spell in a text form. -/
def textContent? (format : DumpFormat) (bytes : ByteArray) : Option Data :=
  match format with
  | .json => (String.fromUTF8? bytes).bind Json.parse?
  | .yaml => ((String.fromUTF8? bytes).bind Yaml.parse?).bind Data.resolve?
  | .binary => none

/-- Bytes in a form say a version of the dump: a text in a field of the record that it spells, a
binary dump in its header. -/
inductive DeclaresVersion : DumpFormat → ByteArray → Nat → Prop where
  | text {format : DumpFormat} {bytes : ByteArray} {d : Data} {n : Nat} :
    textContent? format bytes = some d → d.versionField? "format_version" = some n →
    DeclaresVersion format bytes n
  | binary {bytes : ByteArray} : BinaryDump.headerSize ≤ bytes.toList.length →
    bytes.toList.take 4 = DumpFormat.magic →
    DeclaresVersion .binary bytes (ofLittleEndian ((bytes.toList.drop 4).take 4))

/-- Bytes in a form hold a document.  In a binary dump the checksum is right, the payload ends with
the document, and the header says the same version as the document. -/
inductive Carries : DumpFormat → ByteArray → Document → Prop where
  | text {format : DumpFormat} {bytes : ByteArray} {d : Data} {doc : Document} :
    textContent? format bytes = some d → Document.ofData? d = some doc → Carries format bytes doc
  | binary {bytes : ByteArray} {doc : Document} :
    (BinaryDump.checksumOf (bytes.toList.drop BinaryDump.headerSize)).toNat =
      ofLittleEndian ((bytes.toList.drop 8).take 8) →
    Document.codec.decode (bytes.toList.drop BinaryDump.headerSize) = some (doc, []) →
    doc.formatVersion.toNat = ofLittleEndian ((bytes.toList.drop 4).take 4) →
    Carries .binary bytes doc

theorem not_declaresVersion_of_blank {format : DumpFormat} {bytes : ByteArray} {n : Nat}
    (h : bytes.data.all Text.isAsciiBlank = true) : ¬ DeclaresVersion format bytes n := by
  obtain ⟨s, hs, hblank⟩ := exists_text_of_isAsciiBlank h
  rintro (⟨hcontent, hversion⟩ | ⟨-, hmagic⟩)
  · cases format with
    | json =>
      rw [textContent?, hs, Option.bind_some, Json.parse?_of_isBlankText hblank] at hcontent
      cases hcontent
    | yaml =>
      rw [textContent?, hs, Option.bind_some] at hcontent
      obtain hparse | hparse := Yaml.parse?_of_isBlankText hblank <;> rw [hparse] at hcontent <;>
        cases hcontent
      cases hversion
    | binary => cases hcontent
  · -- the first of the magic bytes is no blank
    have hfirst : (0x41 : UInt8) ∈ bytes.toList.take 4 := by
      rw [hmagic]
      decide
    have hmem : (0x41 : UInt8) ∈ bytes.data := by
      rw [← Array.mem_toList_iff, ← toList_eq]
      exact List.mem_of_mem_take hfirst
    exact absurd (Array.all_eq_true_iff_forall_mem.1 h _ hmem) (by decide)

section TextForms
variable {format : DumpFormat} {bytes : ByteArray} (h : format ≠ .binary)
include h

theorem declaresVersion_text_iff {n : Nat} : DeclaresVersion format bytes n ↔
    ∃ d, textContent? format bytes = some d ∧ d.versionField? "format_version" = some n := by
  constructor
  · rintro (⟨hcontent, hversion⟩ | _)
    · exact ⟨_, hcontent, hversion⟩
    · exact absurd rfl h
  · rintro ⟨d, hcontent, hversion⟩
    exact .text hcontent hversion

theorem carries_text_iff {doc : Document} : Carries format bytes doc ↔
    ∃ d, textContent? format bytes = some d ∧ Document.ofData? d = some doc := by
  constructor
  · rintro (⟨hcontent, hdoc⟩ | _)
    · exact ⟨_, hcontent, hdoc⟩
    · exact absurd rfl h
  · rintro ⟨d, hcontent, hdoc⟩
    exact .text hcontent hdoc

theorem exists_decode_eq :
    ∃ name, Document.decode format bytes = Document.ofContent name (textContent? format bytes) := by
  cases format with
  | json => exact ⟨_, rfl⟩
  | yaml => exact ⟨_, rfl⟩
  | binary => exact absurd rfl h

end TextForms

theorem declaresVersion_binary_iff {bytes : ByteArray} {n : Nat} :
    DeclaresVersion .binary bytes n ↔ BinaryDump.headerSize ≤ bytes.toList.length ∧
      bytes.toList.take 4 = DumpFormat.magic ∧
      n = ofLittleEndian ((bytes.toList.drop 4).take 4) := by
  constructor
  · rintro (⟨hcontent, -⟩ | ⟨hlength, hmagic⟩)
    · cases hcontent
    · exact ⟨hlength, hmagic, rfl⟩
  · rintro ⟨hlength, hmagic, rfl⟩
    exact .binary hlength hmagic

theorem carries_binary_iff {bytes : ByteArray} {doc : Document} :
    Carries .binary bytes doc ↔
      (BinaryDump.checksumOf (bytes.toList.drop BinaryDump.headerSize)).toNat =
        ofLittleEndian ((bytes.toList.drop 8).take 8) ∧
      Document.codec.decode (bytes.toList.drop BinaryDump.headerSize) = some (doc, []) ∧
      doc.formatVersion.toNat = ofLittleEndian ((bytes.toList.drop 4).take 4) := by
  constructor
  · rintro (⟨hcontent, -⟩ | ⟨hchecksum, hdecode, hversion⟩)
    · cases hcontent
    · exact ⟨hchecksum, hdecode, hversion⟩
  · rintro ⟨hchecksum, hdecode, hversion⟩
    exact .binary hchecksum hdecode hversion

namespace Document

theorem toNat_formatVersion {d : Data} {doc : Document} {n : Nat} (h : ofData? d = some doc)
    (hversion : d.versionField? "format_version" = some n) : doc.formatVersion.toNat = n := by
  obtain ⟨fs, hfields, h⟩ := Option.bind_eq_some_iff.1 h
  obtain ⟨v, hread, h⟩ := Option.bind_eq_some_iff.1 h
  have hdoc : v = doc.formatVersion := by
    simp only [Option.bind_eq_bind, Option.bind_eq_some_iff, Option.pure_def, Option.some.injEq] at h
    obtain ⟨_, -, _, -, _, -, _, -, _, -, rfl⟩ := h
    rfl
  rw [← hdoc]
  rw [Data.fieldsOf?_eq_fields? _ hversion] at hfields
  exact Data.toNat_eq_of_versionField? hfields hread hversion

theorem judged_ofContent (format : String) (content : Option Data) :
    Judged (fun n => ∃ d, content = some d ∧ d.versionField? "format_version" = some n)
      (fun doc => ∃ d, content = some d ∧ ofData? d = some doc) (ofContent format content) := by
  cases content with
  | none => exact .malformed nofun nofun
  | some d =>
    simp only [Option.some.injEq, exists_eq_left']
    cases hversion : d.versionField? "format_version" with
    | none =>
      simp only [ofContent, hversion]
      exact .malformed nofun nofun
    | some n =>
      simp only [Option.some.injEq]
      by_cases hn : n = 1
      · subst hn
        have hcontains : supportedVersions.contains (clampVersion 1) = true := rfl
        simp only [ofContent, hversion, hcontains]
        cases hdoc : ofData? d with
        | none => exact .malformed (fun n hn => hn.symm) nofun
        | some doc => exact .read rfl rfl
      · have hnot : supportedVersions.contains (clampVersion n) = false :=
          Bool.eq_false_iff.2 (mt contains_clampVersion_iff.1 hn)
        simp only [ofContent, hversion, hnot]
        exact .unsupported rfl hn

section Binary
variable {bytes : ByteArray} {n : Nat}

/-- Without a header there is nothing to be read. -/
theorem malformed_of_not_declaresVersion (h : ∀ n, ¬ DeclaresVersion .binary bytes n) :
    ∃ reason, BinaryDump.decode bytes.toList = .error (BinaryDump.malformed reason) := by
  by_cases hshort : bytes.toList.length < BinaryDump.headerSize
  · simp only [BinaryDump.decode, hshort, if_true]
    exact ⟨_, rfl⟩
  · have hmagic : bytes.toList.take 4 ≠ DumpFormat.magic := fun hmagic =>
      h _ (.binary (Nat.not_lt.1 hshort) hmagic)
    simp only [BinaryDump.decode, hshort, if_false, hmagic, ne_eq, not_false_eq_true, if_true]
    exact ⟨_, rfl⟩

/-- The version of a header as it is reported. -/
theorem ofNat_version (bytes : ByteArray) :
    UInt32.ofNat (ofLittleEndian ((bytes.toList.drop 4).take 4)) =
      clampVersion (ofLittleEndian ((bytes.toList.drop 4).take 4)) := by
  have hlt : ofLittleEndian ((bytes.toList.drop 4).take 4) < 256 ^ 4 :=
    Nat.lt_of_lt_of_le (ofLittleEndian_lt _)
      (Nat.pow_le_pow_right (by decide) (List.length_take_le _ _))
  rw [clampVersion, Nat.min_eq_left (by omega)]

theorem unsupported_of_declaresVersion (h : DeclaresVersion .binary bytes n) (hn : n ≠ 1) :
    BinaryDump.decode bytes.toList = .error (unsupported (clampVersion n)) := by
  obtain ⟨hlength, hmagic, rfl⟩ := declaresVersion_binary_iff.1 h
  have hnot : supportedVersions.contains
      (UInt32.ofNat (ofLittleEndian ((bytes.toList.drop 4).take 4))) = false :=
    ofNat_version bytes ▸ Bool.eq_false_iff.2 (mt contains_clampVersion_iff.1 hn)
  simp only [BinaryDump.decode, Nat.not_lt.2 hlength, hmagic, hnot, if_false, ne_eq,
    not_true_eq_false, Bool.not_false, if_true]
  rw [ofNat_version]
  rfl

/-- The checks of the payload, one after the other. -/
theorem judged_payload (h : DeclaresVersion .binary bytes 1) :
    Judged (DeclaresVersion .binary bytes) (Carries .binary bytes)
      (BinaryDump.decode bytes.toList) := by
  obtain ⟨hlength, hmagic, hone⟩ := declaresVersion_binary_iff.1 h
  have honly : ∀ n, DeclaresVersion .binary bytes n → n = 1 := fun n hn =>
    (declaresVersion_binary_iff.1 hn).2.2.trans hone.symm
  have hcontains : supportedVersions.contains (UInt32.ofNat 1) = true := rfl
  simp only [BinaryDump.decode, Nat.not_lt.2 hlength, hmagic, ← hone, hcontains, if_false, ne_eq,
    not_true_eq_false, Bool.not_true, Bool.false_eq_true]
  by_cases hchecksum : (BinaryDump.checksumOf (bytes.toList.drop BinaryDump.headerSize)).toNat =
      ofLittleEndian ((bytes.toList.drop 8).take 8)
  case neg =>
    simp only [hchecksum, not_false_eq_true, if_true]
    exact .malformed honly fun _ doc hdoc => hchecksum (carries_binary_iff.1 hdoc).1
  simp only [hchecksum, not_true_eq_false, if_false]
  cases hdecode : codec.decode (bytes.toList.drop BinaryDump.headerSize) with
  | none =>
    refine .malformed honly fun _ doc hdoc => ?_
    cases hdecode.symm.trans (carries_binary_iff.1 hdoc).2.1
  | some p =>
    obtain ⟨doc, _ | ⟨b, rest⟩⟩ := p
    · by_cases hagree : doc.formatVersion = UInt32.ofNat 1
      · simp only [hagree, List.isEmpty_nil, Bool.not_true, Bool.false_eq_true, if_false,
          not_true_eq_false]
        exact .read h (carries_binary_iff.2 ⟨hchecksum, hdecode, hagree ▸ hone⟩)
      · simp only [hagree, List.isEmpty_nil, Bool.not_true, Bool.false_eq_true, if_false,
          not_false_eq_true, if_true]
        refine .malformed honly fun _ other hother => hagree (UInt32.toNat_inj.1 ?_)
        obtain ⟨-, hother, hversion⟩ := carries_binary_iff.1 hother
        cases hdecode.symm.trans hother
        exact hversion.trans hone.symm
    · refine .malformed honly fun _ other hother => ?_
      cases hdecode.symm.trans (carries_binary_iff.1 hother).2.1

theorem judged_decode_binary (bytes : ByteArray) :
    Judged (DeclaresVersion .binary bytes) (Carries .binary bytes)
      (BinaryDump.decode bytes.toList) := by
  by_cases h : ∃ n, DeclaresVersion .binary bytes n
  · obtain ⟨n, h⟩ := h
    by_cases hn : n = 1
    · exact judged_payload (hn ▸ h)
    · rw [unsupported_of_declaresVersion h hn]
      exact .unsupported h hn
  · have hnone : ∀ n, ¬ DeclaresVersion .binary bytes n := not_exists.1 h
    obtain ⟨reason, hreason⟩ := malformed_of_not_declaresVersion hnone
    rw [hreason]
    exact .malformed (fun n hn => absurd hn (hnone n)) fun hn => absurd hn (hnone 1)

end Binary

/-- **How bytes are judged before their entities are.** -/
theorem judged_decode (format : DumpFormat) (bytes : ByteArray) :
    Judged (DeclaresVersion format bytes) (Carries format bytes) (decode format bytes) := by
  by_cases h : format = .binary
  · subst h
    exact judged_decode_binary bytes
  · obtain ⟨name, hdecode⟩ : ∃ name,
        decode format bytes = ofContent name (textContent? format bytes) := exists_decode_eq h
    have hdeclares : DeclaresVersion format bytes = fun n => ∃ d,
        textContent? format bytes = some d ∧ d.versionField? "format_version" = some n :=
      funext fun _ => propext (declaresVersion_text_iff h)
    have hcarries : Carries format bytes = fun doc => ∃ d,
        textContent? format bytes = some d ∧ ofData? d = some doc :=
      funext fun _ => propext (carries_text_iff h)
    rw [hdeclares, hcarries, hdecode]
    exact judged_ofContent name _

/-! ### The snapshot of a document -/

/-- The version that bytes say is that of the document that they hold. -/
theorem formatVersion_eq_one {format : DumpFormat} {bytes : ByteArray} {doc : Document}
    (hversion : DeclaresVersion format bytes 1) (h : Carries format bytes doc) :
    doc.formatVersion = HeaderAbi.formatVersion := by
  refine UInt32.toNat_inj.1 ?_
  by_cases hformat : format = .binary
  · subst hformat
    exact (carries_binary_iff.1 h).2.2.trans (declaresVersion_binary_iff.1 hversion).2.2.symm
  · obtain ⟨d, hd, hone⟩ := (declaresVersion_text_iff hformat).1 hversion
    obtain ⟨d', hd', hdoc⟩ := (carries_text_iff hformat).1 h
    obtain rfl := Option.some.inj (hd.symm.trans hd')
    exact toNat_formatVersion hdoc hone

theorem malformed_of_toSnapshot {doc : Document} {e : Error}
    (hversion : doc.formatVersion = HeaderAbi.formatVersion) (h : doc.toSnapshot = .error e) :
    ∃ context reason, e = .dump context (.malformed reason) := by
  have hcontains : supportedVersions.contains doc.formatVersion = true := by
    rw [hversion]
    rfl
  rw [toSnapshot, if_pos hcontains] at h
  split at h
  · cases h
  · cases h
    exact ⟨_, _, rfl⟩

end Document

theorem DeclaresVersion.unique {format : DumpFormat} {bytes : ByteArray} {m n : Nat}
    (hm : DeclaresVersion format bytes m) (hn : DeclaresVersion format bytes n) : m = n := by
  by_cases h : format = .binary
  · subst h
    exact (declaresVersion_binary_iff.1 hm).2.2.trans (declaresVersion_binary_iff.1 hn).2.2.symm
  · obtain ⟨d, hd, hm⟩ := (declaresVersion_text_iff h).1 hm
    obtain ⟨d', hd', hn⟩ := (declaresVersion_text_iff h).1 hn
    obtain rfl := Option.some.inj (hd.symm.trans hd')
    exact Option.some.inj (hm.symm.trans hn)

theorem Carries.unique {format : DumpFormat} {bytes : ByteArray} {d e : Document}
    (hd : Carries format bytes d) (he : Carries format bytes e) : d = e := by
  by_cases h : format = .binary
  · subst h
    cases (carries_binary_iff.1 hd).2.1.symm.trans (carries_binary_iff.1 he).2.1
    rfl
  · obtain ⟨data, hdata, hd⟩ := (carries_text_iff h).1 hd
    obtain ⟨data', hdata', he⟩ := (carries_text_iff h).1 he
    obtain rfl := Option.some.inj (hdata.symm.trans hdata')
    exact Option.some.inj (hd.symm.trans he)

namespace Snapshot

/-- **How bytes are judged.** -/
theorem judged_decodeAs (format : DumpFormat) (bytes : ByteArray) :
    Judged (DeclaresVersion format bytes)
      (fun s : Snapshot => ∃ d, Carries format bytes d ∧ s.contents.Holds d.items)
      (decodeAs format bytes) := by
  rw [decodeAs]
  split
  · next hblank =>
    have hnone : ∀ n, ¬ DeclaresVersion format bytes n := fun n =>
      not_declaresVersion_of_blank hblank
    exact .malformed (fun n h => absurd h (hnone n)) fun h => absurd h (hnone 1)
  · have hdecode := Document.judged_decode format bytes
    revert hdecode
    generalize Document.decode format bytes = r
    rintro (⟨hn, hne⟩ | ⟨honly, hnone⟩ | @⟨doc, hone, hdoc⟩)
    · exact .unsupported hn hne
    · exact .malformed honly fun h _ ⟨d, hd, _⟩ => hnone h d hd
    · have hversion := Document.formatVersion_eq_one hone hdoc
      change Judged _ _ doc.toSnapshot
      cases hs : doc.toSnapshot with
      | ok s => exact .read hone ⟨doc, hdoc, (Document.toSnapshot_eq_ok_iff.1 hs).2⟩
      | error e =>
        obtain ⟨context, reason, rfl⟩ := Document.malformed_of_toSnapshot hversion hs
        refine .malformed (fun n hn => hn.unique hone) fun _ s ⟨d, hd, hholds⟩ => ?_
        obtain rfl := hd.unique hdoc
        cases hs.symm.trans (Document.toSnapshot_eq_ok_iff.2 ⟨hversion, hholds⟩)

-- A list stands for a record in JSON, and an item that is missing is judged like a field.
example : Document.ofData? (.object [("format_version", .int 1),
    ("producer", .list [.text "other", .text "7"]),
    ("functions", .list [.list [.text "run()", .text "run", .list [.text "void"]]])]) =
      some { formatVersion := 1, producer := ⟨"other", "7"⟩
             functions := [{ uid := ⟨"run()"⟩, name := "run", result := .ofName "void" }] } := by
  rfl

example : Document.ofData? (.object [("format_version", .int 1),
    ("producer", .list [.text "other"])]) = none := by
  rfl

/-! ### Versions beyond 64 bits -/

/-- A JSON text that says a version and nothing else. -/
def versionText (n : Nat) : String := Json.compact (.object [("format_version", .int n)])

theorem textContent?_json (s : String) : textContent? .json s.toUTF8 = Json.parse? s := by
  rw [textContent?, fromUTF8?_toUTF8, Option.bind_some]

end Snapshot

end HeaderAbi
