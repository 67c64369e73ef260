import HeaderAbi.Proofs.Snapshot.InsertionOrder

/-!
# Normal documents

A document may list its entities in any order and name any tool.  What this tool writes is normal:
its own name stands there and every list is in the order of identifiers.

**Loading a document and writing the snapshot again normalizes the document**
(`Document.ofSnapshot_eq_normalized`).  Nothing gets lost, and the second time nothing changes: the
normal document holds the same entities (`Document.items_normalized_perm`), is loaded as an equal
snapshot and is written as it stands (`Document.toSnapshot_normalized`).
-/

namespace HeaderAbi

/-! ### The order of identifiers -/

theorem Uid.text_lt_iff {a b : Uid} : a.text < b.text ↔ a.le b = true ∧ a ≠ b := by
  constructor
  · intro hlt
    refine ⟨decide_eq_true (String.not_lt.1 (String.lt_asymm hlt)), fun heq => ?_⟩
    rw [heq] at hlt
    exact String.lt_irrefl _ hlt
  · rintro ⟨hle, hne⟩
    by_contra hlt
    exact hne (Uid.le_antisymm hle (decide_eq_true (String.not_lt.1 hlt)))

namespace Entity

variable {α : Type} [Entity α]

/-- Entities in the order of identifiers. -/
def sort (as : List α) : List α := as.mergeSort fun a b => (uid a).le (uid b)

/-- Each identifier comes before the next. -/
def Ordered (as : List α) : Prop := as.Pairwise fun a b => (uid a).text < (uid b).text

theorem sort_perm (as : List α) : (sort as).Perm as := List.mergeSort_perm _ _

end Entity

/-- **A table is sorted strictly**, as no two of its entities share an identifier. -/
theorem Table.ordered_sorted {α : Type} [Entity α] (t : Table α) : Entity.Ordered t.sorted := by
  have hne : t.sorted.Pairwise fun a b => Entity.uid a ≠ Entity.uid b :=
    List.pairwise_map.1 t.sorted_nodup
  exact List.Pairwise.imp₂ (fun _ _ hle hne => Uid.text_lt_iff.2 ⟨hle, hne⟩) t.sorted_pairwise hne

namespace Document

variable {d : Document} {s : Snapshot}

/-- What this tool writes: its own name and lists in the order of identifiers. -/
structure IsNormal (d : Document) : Prop where
  producer : d.producer = .current
  records : Entity.Ordered d.records
  enums : Entity.Ordered d.enums
  functions : Entity.Ordered d.functions
  globals : Entity.Ordered d.globals

/-- The same document with each list in the order of identifiers, as this tool would write it. -/
def normalized (d : Document) : Document where
  formatVersion := d.formatVersion
  producer := .current
  records := Entity.sort d.records
  enums := Entity.sort d.enums
  functions := Entity.sort d.functions
  globals := Entity.sort d.globals

theorem isNormal_ofSnapshot (s : Snapshot) : (ofSnapshot s).IsNormal where
  producer := rfl
  records := s.records.ordered_sorted
  enums := s.enums.ordered_sorted
  functions := s.functions.ordered_sorted
  globals := s.globals.ordered_sorted

/-- **No entity gets lost.** -/
theorem items_normalized_perm (d : Document) : d.normalized.items.Perm d.items :=
  ((((Entity.sort_perm d.records).map _).append ((Entity.sort_perm d.enums).map _)).append
    ((Entity.sort_perm d.functions).map _)).append ((Entity.sort_perm d.globals).map _)

/-! ### Loading -/

theorem rebuild_eq_ok_iff : d.rebuild = .ok s ↔ s.contents.Holds d.items := by
  rw [rebuild_eq_ofItems, Draft.ofItems_eq_ok_iff]

/-- **A document is loaded** as the snapshot that holds its entities, in the document's order. -/
theorem toSnapshot_eq_ok_iff : d.toSnapshot = .ok s ↔
    d.formatVersion = HeaderAbi.formatVersion ∧ s.contents.Holds d.items := by
  have hversion : supportedVersions.contains d.formatVersion = true ↔
      d.formatVersion = HeaderAbi.formatVersion := by
    simp [supportedVersions, HeaderAbi.formatVersion]
  rw [← hversion, ← rebuild_eq_ok_iff, toSnapshot]
  split
  · next h =>
    rw [and_iff_right h]
    cases d.rebuild <;> simp
  · next h => exact iff_of_false (by simp) fun hboth => h hboth.1

/-- **Loading and writing normalizes.** -/
theorem ofSnapshot_eq_normalized (h : d.toSnapshot = .ok s) : ofSnapshot s = d.normalized := by
  obtain ⟨hversion, hholds⟩ := toSnapshot_eq_ok_iff.1 h
  obtain ⟨hr, he, hf, hg⟩ := d.filterMap_items
  have hrecords : s.records.entries = d.records := hholds.records.trans hr
  have henums : s.enums.entries = d.enums := hholds.enums.trans he
  have hfunctions : s.functions.entries = d.functions := hholds.functions.trans hf
  have hglobals : s.globals.entries = d.globals := hholds.globals.trans hg
  rw [ofSnapshot, normalized, hversion, Table.sorted, Table.sorted, Table.sorted, Table.sorted,
    hrecords, henums, hfunctions, hglobals]
  rfl

/-- **A document that is loaded and written** becomes normal: each list is the old one in the order
of identifiers, and this tool's name stands there.  Loaded again it gives an equal snapshot, which
is written as the same document and the same bytes. -/
theorem toSnapshot_normalized (h : d.toSnapshot = .ok s) :
    ofSnapshot s = d.normalized ∧ d.normalized.IsNormal ∧ d.normalized.items.Perm d.items ∧
      ∃ t, d.normalized.toSnapshot = .ok t ∧ (t == s) = true ∧ t.Agrees s ∧
        t.fingerprint = s.fingerprint ∧ ofSnapshot t = d.normalized ∧
        ∀ format pretty, t.encode format pretty = s.encode format pretty := by
  have hwritten : ofSnapshot s = d.normalized := ofSnapshot_eq_normalized h
  have hagree : s.sorted.Agrees s := s.sorted_agrees
  refine ⟨hwritten, hwritten ▸ isNormal_ofSnapshot s, d.items_normalized_perm, s.sorted, ?_,
    Snapshot.beq_iff_agrees.2 hagree, hagree, hagree.fingerprint_eq, ?_,
    Snapshot.encode_congr hagree⟩
  · rw [← hwritten]
    exact toSnapshot_ofSnapshot s
  · rw [ofSnapshot_congr hagree, hwritten]

/-- The dump of another tool, in an order of its own. -/
def foreign : Document where
  formatVersion := 1
  producer := ⟨"other", "7"⟩
  records := [
    { uid := ⟨"Shape"⟩, name := "Shape", sizeBits := 32, alignBits := 32
      fields := [⟨"corner", .ofName "Point", 0, none, .everyone⟩] },
    { uid := ⟨"Point"⟩, name := "Point", sizeBits := 32, alignBits := 32
      fields := [⟨"x", .ofName "int", 0, none, .everyone⟩] }]
  functions := [
    { uid := ⟨"draw(Shape)"⟩, name := "draw", result := .ofName "void"
      parameters := [.ofName "Shape"] },
    { uid := ⟨"draw(Point)"⟩, name := "draw", result := .ofName "void"
      parameters := [.ofName "Point"] }]

/-- The snapshot that it describes. -/
def foreignLoaded : Snapshot where
  contents := {
    records := ⟨foreign.records, by decide⟩
    enums := .empty
    functions := ⟨foreign.functions, by decide⟩
    globals := .empty }
  sound := by decide

theorem toSnapshot_normalized_foreign :
    foreign.toSnapshot = .ok foreignLoaded ∧ ¬ foreign.IsNormal ∧
      ofSnapshot foreignLoaded = foreign.normalized ∧
      ∃ t, foreign.normalized.toSnapshot = .ok t ∧ (t == foreignLoaded) = true := by
  have hload : foreign.toSnapshot = .ok foreignLoaded :=
    toSnapshot_eq_ok_iff.2 ⟨rfl, rfl, rfl, rfl, rfl⟩
  have hforeign : ¬ foreign.IsNormal := fun h => absurd h.producer (by decide)
  obtain ⟨hwritten, -, -, t, ht, hsame, -⟩ := toSnapshot_normalized hload
  exact ⟨hload, hforeign, hwritten, t, ht, hsame⟩

end Document

end HeaderAbi
