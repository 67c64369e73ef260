import HeaderAbi.Dump.Content
import HeaderAbi.Proofs.Dump.Rebuild
import HeaderAbi.Proofs.Entity.Written
import HeaderAbi.Proofs.Json.Reading
import HeaderAbi.Proofs.Packed.Codec
import HeaderAbi.Proofs.Yaml.Reading

/-!
# Text dumps are read back

**A text dump is read back exactly when its nesting is within the limit of the reader**
(`Snapshot.readFrom_encode_text`), and refused beyond it.  Nothing bounds the nesting of what is
written (`Snapshot.lt_nesting_nested`), so some snapshots are written and not read back: the
signature of a function type lies inside the use of the type, at any depth.
-/

namespace HeaderAbi

theorem toList_toUTF8_append (s t : String) :
    (s ++ t).toUTF8.toList = s.toUTF8.toList ++ t.toUTF8.toList := by
  rw [toList_eq, toList_eq, toList_eq]
  simp

/-- What a text starts with is what its bytes start with. -/
theorem exists_toUTF8 {s t : String} {b : UInt8} (h : t.toList <+: s.toList)
    (hb : t.toUTF8.data.toList = [b]) : ∃ bytes, s.toUTF8.toList = b :: bytes := by
  obtain ⟨cs, hcs⟩ := h
  have hs : s = t ++ String.ofList cs := by
    rw [← String.toList_inj, String.toList_append, String.toList_ofList, hcs]
  refine ⟨(String.ofList cs).toUTF8.toList, ?_⟩
  rw [hs, toList_toUTF8_append, toList_eq, hb]
  rfl

theorem prefix_block (level : Nat) (opening closing : String) (parts : List String) :
    opening.toList <+: (Json.block level opening closing parts).toList := by
  rw [Json.block]
  split <;> simp only [String.toList_append, List.append_assoc, List.prefix_append]

namespace Document

/-- A document is read from what a faithful text format makes of its form. -/
theorem ofContent_toData {F : Data → Data} (hF : Data.Faithful F) (format : String) {d : Document}
    (hversion : supportedVersions.contains d.formatVersion = true) :
    ofContent format (some (F d.toData)) = .ok d := by
  have hclamp : clampVersion d.formatVersion.toNat = d.formatVersion := by
    have := d.formatVersion.toNat_lt
    rw [clampVersion, Nat.min_eq_left (by omega), UInt32.ofNat_toNat]
  simp only [ofContent, d.versionField?_toData hF, d.ofData?_toData hF, hclamp, hversion,
    Bool.not_true, Bool.false_eq_true, if_false]
  rfl

section Encoded
variable (d : Document) (pretty : Bool)

/-- **A JSON text of a document is read back exactly when its nesting is within the limit.** -/
theorem decode_encode_json (hversion : supportedVersions.contains d.formatVersion = true) :
    decode .json (d.encode .json pretty) =
      if d.toData.depth ≤ Json.nestingLimit then .ok d
      else .error (malformed "JSON" .unreadable) := by
  have hparse : Json.parse? (if pretty then Json.pretty d.toData else Json.compact d.toData) =
      if d.toData.depth ≤ Json.nestingLimit then some d.toData.asJson else none := by
    cases pretty
    · exact Json.parseWithin?_compact d.isWritten_toData _
    · exact Json.parseWithin?_pretty d.isWritten_toData _
  rw [decode, encode, fromUTF8?_toUTF8, Option.bind_some, hparse]
  split
  · exact ofContent_toData Data.faithful_asJson _ hversion
  · rfl

/-- **A YAML text of a document is read back exactly when its nesting is within the limit.** -/
theorem decode_encode_yaml (hversion : supportedVersions.contains d.formatVersion = true) :
    decode .yaml (d.encode .yaml pretty) =
      if Yaml.nesting d.toData ≤ Yaml.depthLimit then .ok d
      else .error (malformed "YAML" .unreadable) := by
  have hparse : (Yaml.parse? (Yaml.render d.toData)).bind Data.resolve? =
      if Yaml.nesting d.toData ≤ Yaml.depthLimit then some d.toData.asYaml else none :=
    Yaml.resolve?_parse?_render d.isWritten_toData
  rw [decode, encode, fromUTF8?_toUTF8, Option.bind_some, hparse]
  split
  · exact ofContent_toData Data.faithful_asYaml _ hversion
  · rfl

/-- A JSON text of a document starts with a brace. -/
theorem exists_encode_json : ∃ bytes, (d.encode .json pretty).toList = 0x7B :: bytes := by
  refine exists_toUTF8 (t := "\x7b") ?_ rfl
  cases pretty
  · rw [if_neg Bool.false_ne_true, toData, Json.compact]
    simp only [String.toList_append, List.append_assoc, List.prefix_append]
  · rw [if_pos rfl, toData, Json.pretty, Json.prettyAt]
    exact prefix_block 0 _ _ _

/-- A YAML text of a document starts with the name of its first field. -/
theorem exists_encode_yaml : ∃ bytes, (d.encode .yaml pretty).toList = 0x66 :: bytes := by
  have hname : Data.isName "format_version" = true := by decide
  have hkey : Yaml.scalarText 2 "format_version" = "f" ++ "ormat_version" :=
    Yaml.scalarText_plain (Yaml.isPlainText_of_isName hname) 2
  refine exists_toUTF8 (t := "f") ?_ rfl
  rw [toData, Yaml.toList_render, Yaml.fieldTexts, hkey]
  obtain ⟨u, hu⟩ := Yaml.exists_laid_stack 0 0 [] _ _
  rw [hu]
  simp only [String.toList_append, List.append_assoc, List.prefix_append]

end Encoded

end Document

namespace Snapshot

/-- A text that starts with a byte that is not blank is not blank. -/
theorem all_isAsciiBlank {bytes : ByteArray} {b : UInt8} (h : ∃ bs, bytes.toList = b :: bs)
    (hb : Text.isAsciiBlank b = false) : bytes.data.all Text.isAsciiBlank = false := by
  obtain ⟨bs, h⟩ := h
  rw [toList_eq] at h
  rw [← Array.all_toList, h, List.all_cons, hb]
  rfl

theorem detect_encode_json (s : Snapshot) (pretty : Bool) :
    DumpFormat.detect (s.encode .json pretty).toList = .json := by
  obtain ⟨bs, h⟩ := (Document.ofSnapshot s).exists_encode_json pretty
  rw [encode, h]
  rfl

theorem detect_encode_yaml (s : Snapshot) (pretty : Bool) :
    DumpFormat.detect (s.encode .yaml pretty).toList = .yaml := by
  obtain ⟨bs, h⟩ := (Document.ofSnapshot s).exists_encode_yaml pretty
  rw [encode, h]
  rfl

/-- **A JSON dump is read back exactly when its nesting is within the limit.** -/
theorem decode_encode_json (s : Snapshot) (pretty : Bool) :
    decode (s.encode .json pretty) =
      if (Document.ofSnapshot s).toData.depth ≤ Json.nestingLimit then .ok s.sorted
      else .error (Document.malformed "JSON" .unreadable) := by
  have hblank : (s.encode .json pretty).data.all Text.isAsciiBlank = false :=
    all_isAsciiBlank ((Document.ofSnapshot s).exists_encode_json pretty) rfl
  rw [decode, detect_encode_json, decodeAs, hblank, if_neg Bool.false_ne_true, encode,
    Document.decode_encode_json _ _ rfl]
  split
  · exact Document.toSnapshot_ofSnapshot s
  · rfl

/-- **A YAML dump is read back exactly when its nesting is within the limit.** -/
theorem decode_encode_yaml (s : Snapshot) (pretty : Bool) :
    decode (s.encode .yaml pretty) =
      if Yaml.nesting (Document.ofSnapshot s).toData ≤ Yaml.depthLimit then .ok s.sorted
      else .error (Document.malformed "YAML" .unreadable) := by
  have hblank : (s.encode .yaml pretty).data.all Text.isAsciiBlank = false :=
    all_isAsciiBlank ((Document.ofSnapshot s).exists_encode_yaml pretty) rfl
  rw [decode, detect_encode_yaml, decodeAs, hblank, if_neg Bool.false_ne_true, encode,
    Document.decode_encode_yaml _ _ rfl]
  split
  · exact Document.toSnapshot_ofSnapshot s
  · rfl

/-- The bytes are read as a snapshot with the same entities. -/
def ReadFrom (s : Snapshot) (bytes : ByteArray) : Prop :=
  ∃ t, decode bytes = .ok t ∧ (t == s) = true ∧ t.Agrees s ∧ t.fingerprint = s.fingerprint

theorem readFrom_iff {s : Snapshot} {bytes : ByteArray} {p : Prop} [Decidable p] {e : Error}
    (h : decode bytes = if p then .ok s.sorted else .error e) : s.ReadFrom bytes ↔ p := by
  rw [ReadFrom, h]
  constructor
  · rintro ⟨t, ht, -⟩
    by_contra hp
    rw [if_neg hp] at ht
    cases ht
  · intro hp
    rw [if_pos hp]
    exact ⟨s.sorted, rfl, beq_iff_agrees.2 s.sorted_agrees, s.sorted_agrees,
      s.sorted_agrees.fingerprint_eq⟩

/-- **Text dumps are read back exactly when their nesting is within the limits of the readers.** -/
theorem readFrom_encode_text (s : Snapshot) (pretty : Bool) :
    (s.ReadFrom (s.encode .json pretty) ↔
        (Document.ofSnapshot s).toData.depth ≤ Json.nestingLimit) ∧
      (s.ReadFrom (s.encode .yaml pretty) ↔
        Yaml.nesting (Document.ofSnapshot s).toData ≤ Yaml.depthLimit) :=
  ⟨readFrom_iff (s.decode_encode_json pretty), readFrom_iff (s.decode_encode_yaml pretty)⟩

end Snapshot

/-! ### Snapshots nested too deeply -/

namespace TypeRef

/-- A function that returns a function, and so on; the last one returns nothing. -/
def returning : Nat → TypeRef
  | 0 => .ofName "void"
  | n + 1 => .function ⟨⟨"()"⟩, {}, [], []⟩ (returning n) [] false .cdecl

theorem resolved_returning (c : Contents) (n : Nat) : c.Resolved (returning n) := by
  induction n with
  | zero =>
    rintro s ⟨⟩
    exact .inr (.inr (.inr (.inr (by decide))))
  | succ n ih =>
    intro s hs
    cases hs with
    | self => exact .inl rfl
    | result hs => exact ih s hs
    | parameter hp => cases hp

theorem lt_nesting_returning (n : Nat) : 2 * n < Yaml.nesting (returning n).toData := by
  induction n with
  | zero => decide
  | succ n ih =>
    rw [returning, toData, formOf]
    simp only [Yaml.nesting, Yaml.nestingFields]
    omega

end TypeRef

namespace Snapshot

/-- A variable whose type is nested to some level. -/
def handler (n : Nat) : GlobalVar where
  uid := ⟨"handler"⟩
  name := "handler"
  type := .returning n

/-- A snapshot with such a variable. -/
def nested (n : Nat) : Snapshot where
  contents := {
    records := .empty
    enums := .empty
    functions := .empty
    globals := ⟨[handler n], List.nodup_singleton _⟩ }
  sound := Contents.faults_eq_nil_iff.2 {
    recordTypes := fun _ h => (List.not_mem_nil h).elim
    enumTypes := fun _ h => (List.not_mem_nil h).elim
    functionTypes := fun _ h => (List.not_mem_nil h).elim
    globalTypes := by
      intro g hg
      obtain rfl := List.mem_singleton.1 hg
      exact TypeRef.resolved_returning _ n
    bases := fun _ h => (List.not_mem_nil h).elim
    parents := fun _ h => (List.not_mem_nil h).elim
    layouts := fun _ h => (List.not_mem_nil h).elim }

theorem ofSnapshot_nested (n : Nat) : Document.ofSnapshot (nested n) =
    { formatVersion := HeaderAbi.formatVersion, globals := [handler n] } := by
  have hrecords : (nested n).records.sorted = [] := List.mergeSort_nil
  have henums : (nested n).enums.sorted = [] := List.mergeSort_nil
  have hfunctions : (nested n).functions.sorted = [] := List.mergeSort_nil
  have hglobals : (nested n).globals.sorted = [handler n] := List.mergeSort_singleton _
  rw [Document.ofSnapshot, hrecords, henums, hfunctions, hglobals]

/-- A snapshot with a callback is within the limits, and is read back from both text forms. -/
theorem readFrom_encode_text_nested : (nested 1).ReadFrom ((nested 1).encode .json true) ∧
    (nested 1).ReadFrom ((nested 1).encode .yaml true) := by
  obtain ⟨hjson, hyaml⟩ := readFrom_encode_text (nested 1) true
  rw [ofSnapshot_nested] at hjson hyaml
  exact ⟨hjson.2 (by decide), hyaml.2 (by decide)⟩

/-- **Nothing bounds the nesting of snapshots**: a level of the type is two levels of the text. -/
theorem lt_nesting_nested (n : Nat) :
    2 * n < Yaml.nesting (Document.ofSnapshot (nested n)).toData := by
  have htype : 2 * n < Yaml.nesting (handler n).toData := by
    have := TypeRef.lt_nesting_returning n
    rw [GlobalVar.toData, handler]
    simp only [Yaml.nesting, Yaml.nestingFields]
    omega
  rw [ofSnapshot_nested]
  simp only [Document.toData, Data.ofList, List.map_cons, List.map_nil, Yaml.nesting,
    Yaml.nestingFields, Yaml.nestingList]
  omega

/-- One with 128 levels is written in both text forms and read back from neither. -/
theorem decode_encode_nested :
    (∀ pretty, decode ((nested 128).encode .json pretty) =
      .error (Document.malformed "JSON" .unreadable)) ∧
    ∀ pretty, decode ((nested 128).encode .yaml pretty) =
      .error (Document.malformed "YAML" .unreadable) := by
  have hyaml := lt_nesting_nested 128
  have hjson := Yaml.nesting_le_depth (Document.ofSnapshot (nested 128)).toData
  constructor <;> intro pretty
  · rw [decode_encode_json, if_neg]
    rw [Json.nestingLimit]
    omega
  · rw [decode_encode_yaml, if_neg]
    rw [Yaml.depthLimit]
    omega

end Snapshot

end HeaderAbi
