import HeaderAbi.Yaml.ScalarText

/-!
# Data that texts carry

`Data.isWritten` describes the data that entities take in dumps: integers of 64 bits, texts of any
characters, and records and variants whose names are plain words.  Neither text format gives such
data back as they were.  `Data.asJson` and `Data.asYaml` say what comes back instead: a variant is
an object of one field in JSON, and in YAML a list is a sequence, a record a map and nothing an
empty node.
-/

namespace HeaderAbi.Data

/-- A name that both text formats can write as it is: lower-case letters and underscores, not read
as anything but a text. -/
def isName (k : String) : Bool :=
  k.toList.all (fun c => c.isLower || c == '_') && !k.isEmpty && decide (k.length ≤ 64) &&
    !Yaml.readsAsOther k

def isTagged : Data → Bool
  | .tagged .. => true
  | _ => false

mutual

/-- The data that entities take in dumps.  No variant carries another one directly, which YAML has
no way to write. -/
def isWritten : Data → Bool
  | .null => true
  | .bool _ => true
  | .int n => decide (-0x8000000000000000 ≤ n) && decide (n < 0x10000000000000000)
  | .text _ => true
  | .list items => areWritten items
  | .object fields => areFields fields
  | .tagged tag content => isName tag && !content.isTagged && content.isWritten
  | _ => false

def areWritten : List Data → Bool
  | [] => true
  | d :: ds => d.isWritten && areWritten ds

/-- Every key is a name, and no two are equal. -/
def areFields : List (String × Data) → Bool
  | [] => true
  | (k, d) :: fs => isName k && fs.all (fun f => f.1 != k) && d.isWritten && areFields fs

end

mutual

/-- What a JSON text of some data is read as. -/
def asJson : Data → Data
  | .list items => .list (listAsJson items)
  | .object fields => .object (fieldsAsJson fields)
  | .tagged tag content => .object [(tag, content.asJson)]
  | d => d

def listAsJson : List Data → List Data
  | [] => []
  | d :: ds => d.asJson :: listAsJson ds

def fieldsAsJson : List (String × Data) → List (String × Data)
  | [] => []
  | (k, d) :: fs => (k, d.asJson) :: fieldsAsJson fs

end

mutual

/-- What a YAML text of some data is read as. -/
def asYaml : Data → Data
  | .null => .blank
  | .list items => .sequence (listAsYaml items)
  | .object fields => .mapping (fieldsAsYaml fields)
  | .tagged tag content => .tagged tag content.asYaml
  | d => d

def listAsYaml : List Data → List Data
  | [] => []
  | d :: ds => d.asYaml :: listAsYaml ds

def fieldsAsYaml : List (String × Data) → List (Data × Data)
  | [] => []
  | (k, d) :: fs => (.text k, d.asYaml) :: fieldsAsYaml fs

end

theorem areWritten_iff {ds : List Data} : areWritten ds = true ↔ ∀ d ∈ ds, d.isWritten = true := by
  induction ds with
  | nil => simp [areWritten]
  | cons d ds ih => simp [areWritten, ih]

theorem listAsJson_eq_map (ds : List Data) : listAsJson ds = ds.map asJson := by
  induction ds with
  | nil => rfl
  | cons d ds ih => rw [listAsJson, ih, List.map_cons]

theorem fieldsAsJson_eq_map (fs : List (String × Data)) :
    fieldsAsJson fs = fs.map fun f => (f.1, f.2.asJson) := by
  induction fs with
  | nil => rfl
  | cons f fs ih => rw [fieldsAsJson, ih, List.map_cons]

theorem listAsYaml_eq_map (ds : List Data) : listAsYaml ds = ds.map asYaml := by
  induction ds with
  | nil => rfl
  | cons d ds ih => rw [listAsYaml, ih, List.map_cons]

theorem fieldsAsYaml_eq_map (fs : List (String × Data)) :
    fieldsAsYaml fs = fs.map fun f => (.text f.1, f.2.asYaml) := by
  induction fs with
  | nil => rfl
  | cons f fs ih => rw [fieldsAsYaml, ih, List.map_cons]

/-- The keys of a record are names, no two of them equal. -/
def areKeys : List String → Bool
  | [] => true
  | k :: ks => isName k && ks.all (· != k) && areKeys ks

theorem isWritten_object {fs : List (String × Data)} (hkeys : areKeys (fs.map (·.1)) = true)
    (h : ∀ f ∈ fs, f.2.isWritten = true) : (object fs).isWritten = true := by
  change areFields fs = true
  induction fs with
  | nil => rfl
  | cons f fs ih =>
    simp only [List.map_cons, areKeys, Bool.and_eq_true, List.all_map] at hkeys
    obtain ⟨⟨hname, hnew⟩, hrest⟩ := hkeys
    have htail := ih hrest fun f hf => h f (List.mem_cons_of_mem _ hf)
    simp only [areFields, Bool.and_eq_true]
    exact ⟨⟨⟨hname, hnew⟩, h f List.mem_cons_self⟩, htail⟩

theorem isWritten_tagged {tag : String} {content : Data} (htag : isName tag = true)
    (hcontent : content.isTagged = false) (h : content.isWritten = true) :
    (tagged tag content).isWritten = true := by
  rw [isWritten, htag, hcontent, h]
  rfl

theorem isWritten_ofList {α : Type} {form : α → Data} {as : List α}
    (h : ∀ a ∈ as, (form a).isWritten = true) : (ofList form as).isWritten = true := by
  change areWritten (as.map form) = true
  rw [areWritten_iff, List.forall_mem_map]
  exact h

theorem isWritten_ofOption {α : Type} {form : α → Data} {o : Option α}
    (h : ∀ a, o = some a → (form a).isWritten = true) : (ofOption form o).isWritten = true := by
  cases o with
  | none => rfl
  | some a => exact h a rfl

theorem isWritten_ofUInt64 (n : UInt64) : (ofUInt64 n).isWritten = true := by
  have := n.toNat_lt
  simp only [ofUInt64, isWritten, Bool.and_eq_true, decide_eq_true_eq]
  omega

theorem isWritten_ofUInt32 (n : UInt32) : (ofUInt32 n).isWritten = true := by
  have := n.toNat_lt
  simp only [ofUInt32, isWritten, Bool.and_eq_true, decide_eq_true_eq]
  omega

end HeaderAbi.Data
