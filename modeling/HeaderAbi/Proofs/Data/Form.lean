import HeaderAbi.Facts.Reader
import HeaderAbi.Proofs.Data.Written

/-!
# Reading back what a text format gives

The two text formats change data on the way, each in its own manner.  `Faithful F` lists what the
readers of typed values rely on, so that there is one proof for each kind of value and not one for
each format: scalars and lists are kept, records keep their fields, variants their names.  Both
formats are faithful (`faithful_asJson`, `faithful_asYaml`).
-/

namespace HeaderAbi.Data

/-- A change of data that readers of typed values do not notice. -/
structure Faithful (F : Data → Data) : Prop where
  null : (F .null).isNull = true
  bool : ∀ b, F (.bool b) = .bool b
  int : ∀ n, F (.int n) = .int n
  text : ∀ s, F (.text s) = .text s
  items : ∀ ds, (F (.list ds)).items? = some (ds.map F)
  fields : ∀ fs, (F (.object fs)).fields? = some (fs.map fun f => (f.1, F f.2))
  /-- The places of the fields do not matter, their names are there. -/
  fieldsOf : ∀ names fs, (F (.object fs)).fieldsOf? names = some (fs.map fun f => (f.1, F f.2))
  isNull : ∀ fs, (F (.object fs)).isNull = false
  variant : ∀ tag d, (F (.tagged tag d)).variant? = some (tag, some (F d))
  version : ∀ key fs, (F (.object fs)).versionField? key =
    ((fs.find? (·.1 == key)).map (·.2)).bind fun d => (F d).asNat?
  /-- A field is nested less deeply than its record. -/
  depth : ∀ fs, ∀ f ∈ fs, (F f.2).depth < (F (.object fs)).depth
  /-- An item is nested less deeply than its list. -/
  depth_item : ∀ ds, ∀ d ∈ ds, (F d).depth < (F (.list ds)).depth

/-! ### The two formats -/

theorem depth_le_depthFields {fs : List (String × Data)} {f : String × Data} (h : f ∈ fs) :
    f.2.depth ≤ depthFields fs := by
  induction fs with
  | nil => cases h
  | cons g fs ih =>
    rw [depthFields]
    obtain rfl | h := List.mem_cons.1 h
    · exact Nat.le_max_left _ _
    · exact Nat.le_trans (ih h) (Nat.le_max_right _ _)

theorem depth_le_depthList {ds : List Data} {d : Data} (h : d ∈ ds) : d.depth ≤ depthList ds := by
  induction ds with
  | nil => cases h
  | cons e ds ih =>
    rw [depthList]
    obtain rfl | h := List.mem_cons.1 h
    · exact Nat.le_max_left _ _
    · exact Nat.le_trans (ih h) (Nat.le_max_right _ _)

theorem depth_le_depthEntries {es : List (Data × Data)} {e : Data × Data} (h : e ∈ es) :
    e.2.depth ≤ depthEntries es := by
  induction es with
  | nil => cases h
  | cons g es ih =>
    rw [depthEntries]
    obtain rfl | h := List.mem_cons.1 h
    · exact Nat.le_trans (Nat.le_max_left _ _) (Nat.le_max_right _ _)
    · exact Nat.le_trans (ih h) (Nat.le_trans (Nat.le_max_right _ _) (Nat.le_max_right _ _))

theorem faithful_asJson : Faithful asJson where
  null := rfl
  bool _ := rfl
  int _ := rfl
  text _ := rfl
  items ds := by rw [asJson, listAsJson_eq_map, items?]
  fields fs := by rw [asJson, fieldsAsJson_eq_map, fields?]
  fieldsOf _ fs := by
    rw [asJson, fieldsAsJson_eq_map]
    rfl
  isNull _ := rfl
  variant _ _ := rfl
  version key fs := by
    rw [asJson, versionField?]
    induction fs with
    | nil => rfl
    | cons f fs ih =>
      rw [fieldsAsJson, List.find?_cons, List.find?_cons]
      cases f.1 == key with
      | true => rfl
      | false => exact ih
  depth fs f h := by
    have hmem : (f.1, f.2.asJson) ∈ fieldsAsJson fs := by
      rw [fieldsAsJson_eq_map]
      exact List.mem_map_of_mem h
    exact Nat.lt_succ_of_le (depth_le_depthFields hmem)
  depth_item ds d h := by
    rw [asJson, listAsJson_eq_map]
    exact Nat.lt_succ_of_le (depth_le_depthList (List.mem_map_of_mem h))

theorem mapM_fieldsAsYaml (fs : List (String × Data)) :
    (fieldsAsYaml fs).mapM (fun (k, d) => (k.asText?).map (·, d)) =
      some (fs.map fun f => (f.1, f.2.asYaml)) := by
  induction fs with
  | nil => rfl
  | cons f fs ih =>
    rw [fieldsAsYaml, List.mapM_cons, ih]
    rfl

theorem faithful_asYaml : Faithful asYaml where
  null := rfl
  bool _ := rfl
  int _ := rfl
  text _ := rfl
  items ds := by rw [asYaml, listAsYaml_eq_map, items?]
  fields fs := mapM_fieldsAsYaml fs
  fieldsOf _ fs := mapM_fieldsAsYaml fs
  isNull _ := rfl
  variant _ _ := rfl
  version key fs := by
    rw [asYaml, versionField?]
    induction fs with
    | nil => rfl
    | cons f fs ih =>
      by_cases h : f.1 = key
      · simp [fieldsAsYaml, h]
      · simpa [fieldsAsYaml, h] using ih
  depth fs f h := by
    have hmem : ((.text f.1, f.2.asYaml) : Data × Data) ∈ fieldsAsYaml fs := by
      rw [fieldsAsYaml_eq_map]
      exact List.mem_map_of_mem h
    exact Nat.lt_succ_of_le (depth_le_depthEntries hmem)
  depth_item ds d h := by
    rw [asYaml, listAsYaml_eq_map]
    exact Nat.lt_succ_of_le (depth_le_depthList (List.mem_map_of_mem h))

/-! ### Readers of parts -/

namespace Faithful

variable {F : Data → Data} (hF : Faithful F) {α : Type}
include hF

theorem asUInt64? (n : UInt64) : (F (.ofUInt64 n)).asUInt64? = some n := by
  have hnat : (Data.int n.toNat).asNat? = some n.toNat := if_pos (Int.natCast_nonneg _)
  have hn : n.toNat < 0x10000000000000000 := n.toNat_lt
  rw [ofUInt64, hF.int, Data.asUInt64?, hnat]
  change (if n.toNat < 0x10000000000000000 then some (UInt64.ofNat n.toNat) else none) = _
  rw [if_pos hn, UInt64.ofNat_toNat]

theorem asUInt32? (n : UInt32) : (F (.ofUInt32 n)).asUInt32? = some n := by
  have hnat : (Data.int n.toNat).asNat? = some n.toNat := if_pos (Int.natCast_nonneg _)
  have hn : n.toNat < 0x100000000 := n.toNat_lt
  rw [ofUInt32, hF.int, Data.asUInt32?, hnat]
  change (if n.toNat < 0x100000000 then some (UInt32.ofNat n.toNat) else none) = _
  rw [if_pos hn, UInt32.ofNat_toNat]

theorem asInt64? (n : Int64) : (F (.int n.toInt)).asInt64? = some n := by
  have hlo : -0x8000000000000000 ≤ n.toInt := n.le_toInt
  have hhi : n.toInt < 0x8000000000000000 := n.toInt_lt
  rw [hF.int]
  simpa [Data.asInt64?, asInt?] using And.intro hlo hhi

theorem asList? {read : Data → Option α} {form : α → Data} {as : List α}
    (h : ∀ a ∈ as, read (F (form a)) = some a) :
    Data.asList? read (F (.ofList form as)) = some as := by
  have hmap : ((as.map form).map F).mapM read = some as := by
    induction as with
    | nil => rfl
    | cons a as ih =>
      have htail := ih fun a ha => h a (List.mem_cons_of_mem _ ha)
      rw [List.map_cons, List.map_cons, List.mapM_cons, h a List.mem_cons_self, htail]
      rfl
  rw [ofList, Data.asList?, hF.items]
  exact hmap

theorem asOption? {read : Data → Option α} {form : α → Data} {o : Option α}
    (h : ∀ a, o = some a → (F (form a)).isNull = false ∧ read (F (form a)) = some a) :
    Data.asOption? read (F (.ofOption form o)) = some o := by
  cases o with
  | none => rw [ofOption, Data.asOption?, hF.null, if_pos rfl]
  | some a =>
    obtain ⟨hnull, hread⟩ := h a rfl
    rw [ofOption, Data.asOption?, hnull, hread]
    rfl

end Faithful

end HeaderAbi.Data
