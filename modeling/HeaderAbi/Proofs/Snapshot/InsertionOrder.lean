import HeaderAbi.Dump.Content
import HeaderAbi.Proofs.Diff.Congruence
import HeaderAbi.Proofs.Dump.Rebuild

/-!
# The order of insertion does not show

**Entities added in another order give the same snapshot, or none** (`Draft.ofItems_perm`): equal,
with one fingerprint, written as the same bytes and compared with anything in the same report.

A snapshot keeps the order in which entities were added, so each consumer needs its own reason:

* validity does not depend on it (`Contents.Agrees.valid`), hence building does not;
* dumps and fingerprints are taken from sorted tables (`Snapshot.encode_congr`);
* comparisons sort what they find (`Snapshot.compare_congr`).
-/

namespace HeaderAbi

/-! ### Dumps -/

theorem Document.ofSnapshot_congr {s t : Snapshot} (h : s.Agrees t) :
    ofSnapshot s = ofSnapshot t := by
  simp only [ofSnapshot, Table.sorted_congr h.records, Table.sorted_congr h.enums,
    Table.sorted_congr h.functions, Table.sorted_congr h.globals]

/-- **Snapshots that agree are written as the same bytes**, in every form. -/
theorem Snapshot.encode_congr {s t : Snapshot} (h : s.Agrees t) (format : DumpFormat)
    (pretty : Bool) : s.encode format pretty = t.encode format pretty := by
  rw [encode, encode, Document.ofSnapshot_congr h]

/-! ### Drafts -/

theorem Item.Distinct.of_perm {items items' : List Item} (h : items.Perm items')
    (hd : Distinct items) : Distinct items' where
  records := ((h.filterMap record?).map Entity.uid).nodup_iff.1 hd.records
  enums := ((h.filterMap enum?).map Entity.uid).nodup_iff.1 hd.enums
  functions := ((h.filterMap function?).map Entity.uid).nodup_iff.1 hd.functions
  globals := ((h.filterMap global?).map Entity.uid).nodup_iff.1 hd.globals

theorem Contents.Holds.agrees {c d : Contents} {items items' : List Item} (h : items.Perm items')
    (hc : c.Holds items) (hd : d.Holds items') : c.Agrees d where
  records := by
    rw [Table.Agrees, hc.records, hd.records]
    exact h.filterMap Item.record?
  enums := by
    rw [Table.Agrees, hc.enums, hd.enums]
    exact h.filterMap Item.enum?
  functions := by
    rw [Table.Agrees, hc.functions, hd.functions]
    exact h.filterMap Item.function?
  globals := by
    rw [Table.Agrees, hc.globals, hd.globals]
    exact h.filterMap Item.global?

namespace Draft

/-- Entities that make a snapshot make one in every order. -/
theorem exists_ofItems_of_perm {unit : Option String} {items items' : List Item}
    (h : items.Perm items') {s : Snapshot} (hs : ofItems unit items = .ok s) :
    ∃ t, ofItems unit items' = .ok t := by
  have hholds := ofItems_eq_ok_iff.1 hs
  obtain ⟨hd, -⟩ := hholds.eq_contents
  have hholds' := Item.contents_holds items' (hd.of_perm h)
  have hvalid := (hholds.agrees h hholds').valid s.valid
  exact ⟨⟨_, Contents.faults_eq_nil_iff.2 hvalid⟩, ofItems_eq_ok_iff.2 hholds'⟩

/-- **The order in which entities are added does not show.**  Only the pairing of functions by name
goes through something without an order of its own, the names of lost functions; it finds the same
pairs whichever way these are visited. -/
theorem ofItems_perm (unit : Option String) {items items' : List Item} (h : items.Perm items') :
    ((∃ s, ofItems unit items = .ok s) ↔ ∃ t, ofItems unit items' = .ok t) ∧
      ∀ s t, ofItems unit items = .ok s → ofItems unit items' = .ok t →
        (s == t) = true ∧ s.Agrees t ∧ s.fingerprint = t.fingerprint ∧
        (∀ format pretty, s.encode format pretty = t.encode format pretty) ∧
        (∀ (e : Engine) (x : Snapshot), e.compare s x = e.compare t x ∧
          e.compare x s = e.compare x t) ∧
        ∀ (x : Snapshot) (names : List String),
          (Matching.Lists names s.functions x.functions →
            Matching.pairsVisiting names s.functions x.functions =
              Matching.namePairs t.functions x.functions) ∧
          (Matching.Lists names x.functions s.functions →
            Matching.pairsVisiting names x.functions s.functions =
              Matching.namePairs x.functions t.functions) := by
  constructor
  · exact ⟨fun ⟨_, hs⟩ => exists_ofItems_of_perm h hs,
      fun ⟨_, ht⟩ => exists_ofItems_of_perm h.symm ht⟩
  · intro s t hs ht
    have hagree : s.Agrees t := (ofItems_eq_ok_iff.1 hs).agrees h (ofItems_eq_ok_iff.1 ht)
    have hrefl : ∀ x : Snapshot, x.Agrees x := fun x => Contents.Agrees.refl _
    refine ⟨Snapshot.beq_iff_agrees.2 hagree, hagree, hagree.fingerprint_eq,
      Snapshot.encode_congr hagree, fun e x => ⟨?_, ?_⟩,
      fun x names => ⟨fun hn => ?_, fun hn => ?_⟩⟩
    · exact Snapshot.compare_congr hagree (hrefl x) _
    · exact Snapshot.compare_congr (hrefl x) hagree _
    · rw [Matching.pairsVisiting_eq_namePairs hn]
      exact Matching.namePairs_congr hagree.functions (hrefl x).functions
    · rw [Matching.pairsVisiting_eq_namePairs hn]
      exact Matching.namePairs_congr (hrefl x).functions hagree.functions

/-- Two functions of one name, and the record that one of them takes. -/
def overloads : List Item :=
  [.function {
      uid := ⟨"draw(Shape)"⟩, name := "draw", result := .ofName "void"
      parameters := [.ofName "Shape"] },
    .record {
      uid := ⟨"Shape"⟩, name := "Shape", sizeBits := 32, alignBits := 32
      fields := [⟨"sides", .ofName "int", 0, none, .everyone⟩] },
    .function {
      uid := ⟨"draw(int)"⟩, name := "draw", result := .ofName "void"
      parameters := [.ofName "int"] }]

/-- The snapshot of the two functions and the record. -/
def overloaded : Snapshot where
  contents := Item.contents overloads ⟨by decide, by decide, by decide, by decide⟩
  sound := by decide

theorem ofItems_perm_overloads :
    overloads.Perm overloads.reverse ∧ ofItems none overloads = .ok overloaded ∧
      ∃ t, ofItems none overloads.reverse = .ok t ∧ (overloaded == t) = true ∧
        overloaded.encode .yaml false = t.encode .yaml false ∧
        Matching.Lists ["draw"] overloaded.functions Snapshot.empty.functions ∧
        Matching.pairsVisiting ["draw"] overloaded.functions Snapshot.empty.functions =
          Matching.namePairs t.functions Snapshot.empty.functions := by
  have hperm : overloads.Perm overloads.reverse := (List.reverse_perm overloads).symm
  have hs : ofItems none overloads = .ok overloaded :=
    ofItems_eq_ok_iff.2 ⟨rfl, rfl, rfl, rfl⟩
  have hlists : Matching.Lists ["draw"] overloaded.functions Snapshot.empty.functions :=
    ⟨by decide, fun name => by
      have hlost : (overloaded.functions.without Snapshot.empty.functions).map Function.name =
          ["draw", "draw"] := rfl
      simp [← List.mem_map, hlost]⟩
  obtain ⟨t, ht⟩ := (ofItems_perm none hperm).1.1 ⟨_, hs⟩
  obtain ⟨hsame, -, -, hencode, -, hpairs⟩ := (ofItems_perm none hperm).2 _ t hs ht
  exact ⟨hperm, hs, t, ht, hsame, hencode .yaml false, hlists, (hpairs _ _).1 hlists⟩

end Draft

end HeaderAbi
