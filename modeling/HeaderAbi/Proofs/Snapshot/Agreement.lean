import HeaderAbi.Proofs.Snapshot.Table
import HeaderAbi.Snapshot.Fingerprint

/-!
# Agreement of snapshots

Two snapshots agree when they hold the same entities, whatever the order in which these were added.
Agreement is what the comparison `==` decides (`beq_iff_agrees`), and it makes dumps and
fingerprints equal, which are taken from sorted tables.
-/

namespace HeaderAbi

/-- Two contents hold the same entities of every category. -/
structure Contents.Agrees (c d : Contents) : Prop where
  records : c.records.Agrees d.records
  enums : c.enums.Agrees d.enums
  functions : c.functions.Agrees d.functions
  globals : c.globals.Agrees d.globals

namespace Contents.Agrees

theorem refl (c : Contents) : c.Agrees c := ⟨.refl _, .refl _, .refl _, .refl _⟩

theorem symm {c d : Contents} (h : c.Agrees d) : d.Agrees c :=
  ⟨h.records.symm, h.enums.symm, h.functions.symm, h.globals.symm⟩

theorem trans {c d e : Contents} (h : c.Agrees d) (h' : d.Agrees e) : c.Agrees e :=
  ⟨h.records.trans h'.records, h.enums.trans h'.enums, h.functions.trans h'.functions,
    h.globals.trans h'.globals⟩

end Contents.Agrees

namespace Snapshot

/-- Two snapshots hold the same entities of every category. -/
def Agrees (s t : Snapshot) : Prop := s.contents.Agrees t.contents

namespace Agrees

variable {s t u : Snapshot}

theorem records (h : s.Agrees t) : s.records.Agrees t.records := Contents.Agrees.records h

theorem enums (h : s.Agrees t) : s.enums.Agrees t.enums := Contents.Agrees.enums h

theorem functions (h : s.Agrees t) : s.functions.Agrees t.functions := Contents.Agrees.functions h

theorem globals (h : s.Agrees t) : s.globals.Agrees t.globals := Contents.Agrees.globals h

theorem symm (h : s.Agrees t) : t.Agrees s := Contents.Agrees.symm h

theorem trans (h : s.Agrees t) (h' : t.Agrees u) : s.Agrees u := Contents.Agrees.trans h h'

end Agrees

theorem beq_iff_agrees {s t : Snapshot} : (s == t) = true ↔ s.Agrees t := by
  change same s t = true ↔ _
  simp only [same, Bool.and_eq_true, beq_iff_eq]
  constructor
  · rintro ⟨⟨⟨hr, he⟩, hf⟩, hg⟩
    exact ⟨Table.agrees_of_sorted_eq hr, Table.agrees_of_sorted_eq he,
      Table.agrees_of_sorted_eq hf, Table.agrees_of_sorted_eq hg⟩
  · intro h
    exact ⟨⟨⟨Table.sorted_congr h.records, Table.sorted_congr h.enums⟩,
      Table.sorted_congr h.functions⟩, Table.sorted_congr h.globals⟩

/-- **Snapshots that agree have one fingerprint.** -/
theorem Agrees.fingerprint_eq {s t : Snapshot} (h : s.Agrees t) :
    s.fingerprint = t.fingerprint := by
  simp only [fingerprint, canonicalBytes, canonicalText, Table.canonicalText,
    Table.sorted_congr h.records, Table.sorted_congr h.enums, Table.sorted_congr h.functions,
    Table.sorted_congr h.globals]

end Snapshot

end HeaderAbi
