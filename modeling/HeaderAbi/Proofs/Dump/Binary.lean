import HeaderAbi.Dump.Content
import HeaderAbi.Proofs.Dump.Rebuild
import HeaderAbi.Proofs.Packed.Entity

/-!
# Binary dumps are read back

**A binary dump is found to be one and read back into the snapshot it was made from**
(`Snapshot.decode_encode_binary`), at any nesting of types and for all texts and values, as long as
every length fits into 64 bits.  Nothing is used of the checksum but that it is a function.
-/

namespace HeaderAbi

theorem Producer.reads {p : Producer} (h : p.toData.fits = true) : codec.Reads p := by
  simp only [toData, Data.fits, Data.fitsFields, Bool.and_eq_true, decide_eq_true_eq] at h
  exact ((Codec.reads_text h.1).pair (Codec.reads_text h.2.1)).via rfl

theorem Document.reads {d : Document} (h : d.toData.fits = true) : codec.Reads d := by
  simp only [toData, Data.fits_ofList, Data.fits, Data.fitsFields, Bool.and_eq_true] at h
  obtain ⟨-, hp, ⟨hrs, hr⟩, ⟨hes, he⟩, ⟨hfs, hf⟩, ⟨hgs, hg⟩, -⟩ := h
  exact ((Codec.reads_uint32 _).pair ((Producer.reads hp).pair
    ((Codec.reads_list hrs fun r hm => Record.reads (hr r hm)).pair
      ((Codec.reads_list hes fun e hm => EnumType.reads (he e hm)).pair
        ((Codec.reads_list hfs fun f hm => Function.reads (hf f hm)).pair
          (Codec.reads_list hgs fun g hm => GlobalVar.reads (hg g hm))))))).via rfl

namespace BinaryDump

/-- **A binary dump is read back**: its four parts are told apart by their lengths. -/
theorem decode_encode {d : Document} (hversion : supportedVersions.contains d.formatVersion = true)
    (h : d.toData.fits = true) : decode (encode d) = .ok d := by
  let payload := Document.codec.encode d
  let version := littleEndian 4 d.formatVersion.toNat
  let check := littleEndian 8 (checksumOf payload).toNat
  have hencode : encode d = DumpFormat.magic ++ (version ++ (check ++ payload)) := by
    simp only [encode, List.append_assoc, version, check, payload]
  have hvlen : version.length = 4 := length_littleEndian _ _
  have hclen : check.length = 8 := length_littleEndian _ _
  have hmlen : DumpFormat.magic.length = 4 := rfl
  have htake : (encode d).take 4 = DumpFormat.magic := by
    rw [hencode, List.take_left' hmlen]
  have hdrop : (encode d).drop 4 = version ++ (check ++ payload) := by
    rw [hencode, List.drop_left' hmlen]
  have hdropv : (encode d).drop 8 = check ++ payload := by
    rw [← List.drop_drop (i := 4) (j := 4), hdrop, List.drop_left' hvlen]
  have hdropc : (encode d).drop headerSize = payload := by
    rw [headerSize, ← List.drop_drop (i := 8) (j := 8), hdropv, List.drop_left' hclen]
  have hlong : ¬ (encode d).length < headerSize := by
    simp only [hencode, List.length_append, hvlen, hclen, hmlen, headerSize]
    omega
  have hv : ofLittleEndian version = d.formatVersion.toNat :=
    ofLittleEndian_littleEndian d.formatVersion.toNat_lt
  have hc : ofLittleEndian check = (checksumOf payload).toNat :=
    ofLittleEndian_littleEndian (checksumOf payload).toNat_lt
  have hread : Document.codec.decode payload = some (d, []) := by
    have := Document.reads h []
    rwa [List.append_nil] at this
  simp only [decode, hlong, htake, hdrop, hdropv, hdropc, List.take_left' hvlen,
    List.take_left' hclen, hv, hc, UInt32.ofNat_toNat, hversion, hread, ne_eq, not_true_eq_false,
    Bool.not_true, Bool.false_eq_true, List.isEmpty_nil, if_false]
  rfl

end BinaryDump

namespace Snapshot

theorem toList_encode_binary (s : Snapshot) (pretty : Bool) :
    (s.encode .binary pretty).toList = BinaryDump.encode (Document.ofSnapshot s) := by
  rw [toList_eq]
  rfl

/-- **A binary dump is found to be one and read back.** -/
theorem decode_encode_binary (s : Snapshot) (pretty : Bool)
    (h : (Document.ofSnapshot s).toData.fits = true) :
    DumpFormat.detect (s.encode .binary pretty).toList = .binary ∧
      ∃ t, decode (s.encode .binary pretty) = .ok t ∧ (t == s) = true ∧ t.Agrees s ∧
        t.fingerprint = s.fingerprint := by
  have hdetect : DumpFormat.detect (s.encode .binary pretty).toList = .binary := by
    rw [toList_encode_binary]
    rfl
  refine ⟨hdetect, s.sorted, ?_, beq_iff_agrees.2 s.sorted_agrees, s.sorted_agrees,
    s.sorted_agrees.fingerprint_eq⟩
  have hblank : (s.encode .binary pretty).data.all Text.isAsciiBlank = false := by
    change (BinaryDump.encode (Document.ofSnapshot s)).toArray.all Text.isAsciiBlank = false
    rw [List.all_toArray]
    rfl
  have hread : Document.decode .binary (s.encode .binary pretty) = .ok (Document.ofSnapshot s) := by
    rw [Document.decode, toList_encode_binary]
    exact BinaryDump.decode_encode rfl h
  rw [decode, hdetect, decodeAs, hblank, hread]
  exact Document.toSnapshot_ofSnapshot s

/-- A function that takes a pointer to a function that takes such a pointer again, and an
enumeration with the least and the greatest value. -/
def callbacks : Snapshot where
  contents := {
    records := .empty
    enums := ⟨[{
      uid := ⟨"Größe"⟩, name := "Größe", underlying := .ofName "long"
      enumerators := [⟨"least", .signed (-9223372036854775808)⟩,
        ⟨"greatest", .unsigned 18446744073709551615⟩] }], by decide⟩
    functions := ⟨[{
      uid := ⟨"each(void (*)(int (*)(...)))"⟩, name := "each", result := .ofName "void"
      parameters := [.pointer (.function ⟨⟨"void (int (*)(...))"⟩, {}, [], []⟩ (.ofName "void")
        [.pointer (.function ⟨⟨"int (...)"⟩, {}, [], []⟩ (.ofName "int") [] true .cdecl)]
        false (.other "swiftcall"))] }], by decide⟩
    globals := .empty }
  sound := by decide

theorem decode_encode_binary_callbacks :
    (Document.ofSnapshot callbacks).toData.fits = true ∧
      DumpFormat.detect (callbacks.encode .binary true).toList = .binary :=
  ⟨by decide +kernel, (decode_encode_binary callbacks true (by decide +kernel)).1⟩

end Snapshot

end HeaderAbi
