import HeaderAbi.Proofs.Diff.ByName
import HeaderAbi.Proofs.Diff.Summary
import HeaderAbi.Report.Basic

/-!
# What ignoring hides

Matching functions by name moves a break from the identifier of the function that is gone to that of
the function that took its place.  Ignored identifiers are dropped from a report afterwards, so a
break may move under one of them.

* A break that is found by identifier is found by name too, or it is the loss of a function that is
  found again by its name (`found_byName_of_byUid`), and conversely (`found_byUid_of_byName`).
* **Matching by name hides all breaks** exactly when each of them is such a loss and the new
  identifiers of all pairs are ignored (`hasBreaking_byName`); never when with a new identifier the
  old one is ignored as well.
-/

namespace HeaderAbi

namespace Snapshot

open NamePair

variable {m : Matching} {ignored : Uid → Bool} {old new : Snapshot} {e : Entry}

theorem hasBreaking_compare_iff : (compare m ignored old new).hasBreaking = true ↔
    ¬ old.Agrees new ∧ ∃ e, ignored e.uid = false ∧ Found m old new e ∧ e.isBreaking = true := by
  simp only [Diff.hasBreaking_iff, mem_compare_iff, and_assoc, exists_and_left]

/-- Snapshots with functions to pair differ. -/
theorem not_agrees_of_mem_pairs {p : Function × Function}
    (hp : p ∈ m.pairs old.functions new.functions) : ¬ old.Agrees new := by
  intro hagree
  obtain ⟨hold, hlost⟩ := Table.mem_without.1 (Matching.mem_without_of_mem_pairs hp).1
  exact hlost p.1 (hagree.functions.mem_iff.1 hold) rfl

/-- **A pair is a break.** -/
theorem found_signatureEntry {o n : Function} (hp : (o, n) ∈ m.pairs old.functions new.functions) :
    Found m old new (signatureEntry o n) :=
  .paired hp List.mem_cons_self

/-- **A break that is found by identifier** is found by name, or it is the loss of a function that
is found again. -/
theorem found_byName_of_byUid (h : Found .byUid old new e) (hbreaking : e.isBreaking = true) :
    Found .byName old new e ∨
      ∃ p ∈ Matching.namePairs old.functions new.functions, e = Entity.removal p.1 := by
  cases h with
  | @removed i hi hnot _ =>
    by_cases hpair : ∃ p ∈ Matching.namePairs old.functions new.functions, i = .function p.1
    · obtain ⟨p, hp, rfl⟩ := hpair
      exact .inr ⟨p, hp, rfl⟩
    · exact .inl (.removed hi hnot fun p hp h => hpair ⟨p, hp, h⟩)
  | @added i _ _ _ =>
    have himpact : i.addition.impact = .nonBreaking := Item.impact_addition
    simp [Entry.isBreaking, himpact] at hbreaking
  | changed ho hn hkey he => exact .inl (.changed ho hn hkey he)
  | paired hp _ => cases hp

/-- **A break that is found by name** is found by identifier, or it is one of a pair. -/
theorem found_byUid_of_byName (h : Found .byName old new e) (hbreaking : e.isBreaking = true) :
    (Found .byUid old new e ∧
        ∀ p ∈ Matching.namePairs old.functions new.functions, e ≠ Entity.removal p.1) ∨
      ∃ p ∈ Matching.namePairs old.functions new.functions, e.uid = p.2.uid := by
  cases h with
  | @removed i hi hnot halone =>
    refine .inl ⟨.removed hi hnot fun _ hp => absurd hp List.not_mem_nil,
      fun p hp h => halone p hp ?_⟩
    have hold : p.1 ∈ old.functions.entries :=
      Matching.fst_mem (m := .byName) hp
    refine Contents.eq_of_key_eq hi (Contents.function_mem_items.2 hold) ?_
    rw [← Item.key_removal, h]
    exact Entity.key_removal p.1
  | @added i _ _ _ =>
    have himpact : i.addition.impact = .nonBreaking := Item.impact_addition
    simp [Entry.isBreaking, himpact] at hbreaking
  | changed ho hn hkey he =>
    refine .inl ⟨.changed ho hn hkey he, fun p _ h => ?_⟩
    have hpresence : (Entity.removal p.1).isPresence = true := Listed.isPresence_removal p.1
    rw [← h, Item.isPresence_of_mem_changes he] at hpresence
    cases hpresence
  | @paired o n c hp _ => exact .inr ⟨(o, n), hp, rfl⟩

/-- **The breaks of a report by name** are the pairs and what else breaks by identifier. -/
theorem hasBreaking_byName_iff : (compare .byName ignored old new).hasBreaking = true ↔
    (∃ p ∈ Matching.namePairs old.functions new.functions, ignored p.2.uid = false) ∨
      ∃ e ∈ (compare .byUid ignored old new).entries, e.isBreaking = true ∧
        ∀ p ∈ Matching.namePairs old.functions new.functions, e ≠ Entity.removal p.1 := by
  rw [hasBreaking_compare_iff]
  constructor
  · rintro ⟨hdiffer, e, hshown, hfound, hbreaking⟩
    rcases found_byUid_of_byName hfound hbreaking with ⟨hfound, halone⟩ | ⟨p, hp, hu⟩
    · exact .inr ⟨e, mem_compare_iff.2 ⟨hdiffer, hshown, hfound⟩, hbreaking, halone⟩
    · exact .inl ⟨p, hp, hu ▸ hshown⟩
  · rintro (⟨p, hp, hshown⟩ | ⟨e, he, hbreaking, halone⟩)
    · exact ⟨not_agrees_of_mem_pairs (m := .byName) hp, signatureEntry p.1 p.2, hshown,
        found_signatureEntry (m := .byName) hp, rfl⟩
    · obtain ⟨hdiffer, hshown, hfound⟩ := mem_compare_iff.1 he
      rcases found_byName_of_byUid hfound hbreaking with hfound | ⟨p, hp, h⟩
      · exact ⟨hdiffer, e, hshown, hfound, hbreaking⟩
      · exact absurd h (halone p hp)

/-- **Matching by name hides breaks only under ignored identifiers.**  A report by name has no break
exactly when every break of the report by identifier is the loss of a function that is found again
by its name and the new identifiers of all pairs are ignored.  So a verdict stays incompatible when
the new identifier of a pair is ignored only together with the old one, such as when nothing is
ignored. -/
theorem hasBreaking_byName (ignored : Uid → Bool) (old new : Snapshot) :
    let pairs := Matching.namePairs old.functions new.functions
    let byUid := compare .byUid ignored old new
    let byName := compare .byName ignored old new
    (byName.hasBreaking = false ↔
      (∀ e ∈ byUid.entries, e.isBreaking = true → ∃ p ∈ pairs, e = Entity.removal p.1) ∧
        ∀ p ∈ pairs, ignored p.2.uid = true) ∧
    ((∀ p ∈ pairs, ignored p.2.uid = true → ignored p.1.uid = true) →
      byUid.hasBreaking = true → byName.hasBreaking = true ∧
        Verdict.ofDiff byName = .incompatible) := by
  intro pairs byUid byName
  have hhidden : byName.hasBreaking = false ↔
      (∀ e ∈ byUid.entries, e.isBreaking = true → ∃ p ∈ pairs, e = Entity.removal p.1) ∧
        ∀ p ∈ pairs, ignored p.2.uid = true := by
    rw [← Bool.not_eq_true, hasBreaking_byName_iff, not_or, and_comm]
    push Not
    simp only [ne_eq, Bool.not_eq_false, pairs, byUid]
  refine ⟨hhidden, fun htogether hbreaking => ?_⟩
  have hkept : byName.hasBreaking = true := by
    by_contra hnone
    obtain ⟨hlosses, hignored⟩ := hhidden.1 (Bool.not_eq_true _ ▸ hnone)
    obtain ⟨e, he, hbreak⟩ := Diff.hasBreaking_iff.1 hbreaking
    obtain ⟨p, hp, rfl⟩ := hlosses e he hbreak
    obtain ⟨-, hshown, -⟩ := mem_compare_iff.1 he
    rw [Entity.uid_removal] at hshown
    exact Bool.false_ne_true (hshown.symm.trans (htogether p hp (hignored p hp)))
  exact ⟨hkept, if_pos hkept⟩

/-- One function. -/
def drawing : Snapshot where
  contents := { Contents.empty with functions := ⟨[unary "draw" "int"], by decide⟩ }
  sound := by decide

/-- The same function with a wider parameter. -/
def drawingWidened : Snapshot where
  contents := { Contents.empty with functions := ⟨[unary "draw" "long"], by decide⟩ }
  sound := by decide

/-- Both forms of a function are ignored. -/
def ignoresDraw (u : Uid) : Bool := u.text == "draw(int)" || u.text == "draw(long)"

/-- Both forms of the paired function are ignored, and other breaks remain. -/
theorem hasBreaking_byName_canvas :
    (∀ p ∈ Matching.namePairs canvas.functions canvasWidened.functions,
        ignoresDraw p.2.uid = true → ignoresDraw p.1.uid = true) ∧
      (compare .byUid ignoresDraw canvas canvasWidened).hasBreaking = true ∧
      (compare .byName ignoresDraw canvas canvasWidened).hasBreaking = true := by
  have htogether : ∀ p ∈ Matching.namePairs canvas.functions canvasWidened.functions,
      ignoresDraw p.2.uid = true → ignoresDraw p.1.uid = true := by
    intro p hp _
    have hpairs : Matching.namePairs canvas.functions canvasWidened.functions =
        [(unary "draw" "int", unary "draw" "long")] := by
      decide +kernel
    obtain rfl : p = (unary "draw" "int", unary "draw" "long") :=
      List.mem_singleton.1 (hpairs ▸ hp)
    decide
  have hdiffer : ¬ canvas.Agrees canvasWidened :=
    Contents.not_agrees_of_mem (i := .function (unary "scale" "char")) (by decide) (by decide)
  have hlost : Found .byUid canvas canvasWidened (Entity.removal (unary "scale" "char")) :=
    .removed (i := .function (unary "scale" "char")) (by decide) (by decide)
      fun _ hp => absurd hp List.not_mem_nil
  have hbreaking : (compare .byUid ignoresDraw canvas canvasWidened).hasBreaking = true :=
    hasBreaking_compare_iff.2 ⟨hdiffer, _, rfl, hlost, rfl⟩
  exact ⟨htogether, hbreaking,
    ((hasBreaking_byName ignoresDraw canvas canvasWidened).2 htogether hbreaking).1⟩

/-- The identifier of the wider form alone is ignored. -/
def ignoresWide (u : Uid) : Bool := u.text == "draw(long)"

/-- **Matching by name may hide the only break**: it is the loss of a function that is found again
under an ignored identifier. -/
theorem byName_hides_break :
    (compare .byUid ignoresWide drawing drawingWidened).hasBreaking = true ∧
      (compare .byName ignoresWide drawing drawingWidened).hasBreaking = false ∧
      Verdict.ofDiff (compare .byUid ignoresWide drawing drawingWidened) = .incompatible ∧
      Verdict.ofDiff (compare .byName ignoresWide drawing drawingWidened) = .compatible := by
  simp only [compare_eq_insertionSort, functionEntries, functionPresence,
    Table.presence_eq_insertionSort]
  decide +kernel

end Snapshot

end HeaderAbi
