import HeaderAbi.Proofs.Snapshot.Merging

/-!
# The outcome of merging

The parts of a merge contribute their declarations one after the other (`foldlM_addUnit`), so what
is known of runs of declarations is known of parts: they come together unless two of them contradict
each other, and the first contradiction is the one that is reported.

What is merged holds the identifiers and the complete declarations of the parts (`Keeps.gathers`)
and refers to nothing that is missing (`Keeps.closed`): a declaration comes from a unit in which it
finds what it refers to, and the merge has all that the unit has.  So layouts alone can be wrong in
the end, and otherwise the merge is the union of its parts (`Snapshot.IsUnion`).
-/

namespace HeaderAbi

/-! ### Parts -/

/-- The declarations of a part. -/
def ofPart (part : String × Snapshot) : List Supplied :=
  part.2.contents.items.map (part.1, ·)

/-- The declarations of the parts, one after the other. -/
def declarations (parts : List (String × Snapshot)) : List Supplied := parts.flatMap ofPart

theorem mem_ofPart {part : String × Snapshot} {d : Supplied} :
    d ∈ ofPart part ↔ d.1 = part.1 ∧ d.2 ∈ part.2.contents.items := by
  rw [ofPart, List.mem_map]
  constructor
  · rintro ⟨i, hi, rfl⟩
    exact ⟨rfl, hi⟩
  · rintro ⟨hunit, hi⟩
    exact ⟨d.2, hi, by rw [← hunit]⟩

/-- A part declares an entity once. -/
theorem find?_ofPart {part : String × Snapshot} {i : Item} (hi : i ∈ part.2.contents.items) :
    (ofPart part).find? (·.2.key = i.key) = some (part.1, i) := by
  have hmem : (part.1, i) ∈ ofPart part := mem_ofPart.2 ⟨rfl, hi⟩
  obtain ⟨d, hd⟩ : ∃ d, (ofPart part).find? (·.2.key = i.key) = some d :=
    Option.isSome_iff_exists.1 (List.find?_isSome.2 ⟨_, hmem, by simp⟩)
  obtain ⟨hunit, hdmem⟩ := mem_ofPart.1 (List.mem_of_find?_eq_some hd)
  have hsame : d.2 = i := Contents.eq_of_key_eq hdmem hi (by simpa using List.find?_some hd)
  rw [hd, ← hunit, ← hsame]

theorem declarations_cons (part : String × Snapshot) (parts : List (String × Snapshot)) :
    declarations (part :: parts) = ofPart part ++ declarations parts :=
  List.flatMap_cons

theorem declarations_append (parts parts' : List (String × Snapshot)) :
    declarations (parts ++ parts') = declarations parts ++ declarations parts' :=
  List.flatMap_append

theorem mem_declarations {parts : List (String × Snapshot)} {d : Supplied} :
    d ∈ declarations parts ↔ ∃ part ∈ parts, d.1 = part.1 ∧ d.2 ∈ part.2.contents.items := by
  simp only [declarations, List.mem_flatMap, mem_ofPart]

theorem Merging.addUnit_eq (m : Merging) (part : String × Snapshot) :
    m.addUnit part = (ofPart part).foldlM take m := by
  simp only [addUnit, ofPart, Contents.items, List.map_append, List.map_map, List.foldlM_append,
    List.foldlM_map, bind_assoc]
  rfl

/-- A merge takes in the declarations of its parts one after the other. -/
theorem Merging.foldlM_addUnit (m : Merging) (parts : List (String × Snapshot)) :
    parts.foldlM addUnit m = (declarations parts).foldlM take m := by
  induction parts generalizing m with
  | nil => rfl
  | cons part parts ih =>
    simp only [List.foldlM_cons, addUnit_eq, ih, declarations_cons, List.foldlM_append]

/-- A declaration among those of the parts divides the parts into those before its own, its own and
the rest. -/
theorem exists_parts_of_declarations {parts : List (String × Snapshot)}
    {before after : List Supplied} {d : Supplied}
    (h : declarations parts = before ++ d :: after) :
    ∃ earlier part later pre, parts = earlier ++ part :: later ∧
      before = declarations earlier ++ pre ∧ d ∈ ofPart part ∧ ∀ e ∈ pre, e ∈ ofPart part := by
  induction parts generalizing before with
  | nil => simp [declarations] at h
  | cons first parts ih =>
    rw [declarations_cons, List.append_eq_append_iff] at h
    -- The declaration lies behind those of the first part, or among them.
    have hcases :
        (∃ rest, before = ofPart first ++ rest ∧ declarations parts = rest ++ d :: after) ∨
          ∃ rest, ofPart first = before ++ d :: rest := by
      obtain h | ⟨rest, hfirst, h⟩ := h
      · exact .inl h
      · obtain ⟨rfl, h⟩ | ⟨rest', rfl, -⟩ := List.cons_eq_append_iff.1 h
        · exact .inl ⟨[], by simpa using hfirst.symm, by simpa using h.symm⟩
        · exact .inr ⟨rest', hfirst⟩
    clear h
    obtain ⟨rest, rfl, h⟩ | ⟨rest, h⟩ := hcases
    · obtain ⟨earlier, part, later, pre, rfl, rfl, hrest⟩ := ih h
      exact ⟨first :: earlier, part, later, pre, rfl, by simp [declarations_cons], hrest⟩
    · exact ⟨[], first, parts, before, rfl, rfl, by simp [h], fun e he => by simp [h, he]⟩

/-! ### What is gathered -/

/-- Contents hold what some parts declare, whichever of its forward declarations stands for a record
that is complete nowhere. -/
structure Contents.Gathers (c : Contents) (parts : List (String × Snapshot)) : Prop where
  /-- The identifiers of each category are those of the parts. -/
  has_iff : ∀ key, c.Has key ↔ ∃ p ∈ parts, p.2.contents.Has key
  /-- The complete declarations are those of the parts. -/
  complete_iff : ∀ i, i.isOpaque = false → (i ∈ c.items ↔ ∃ p ∈ parts, i ∈ p.2.contents.items)

namespace Merging

variable {m : Merging} {parts : List (String × Snapshot)}

/-- **What is retained of consistent parts** gathers them. -/
theorem Keeps.gathers (h : m.Keeps (declarations parts)) (hc : Consistent (declarations parts)) :
    m.contents.Gathers parts := by
  constructor
  case has_iff =>
    intro key
    rw [h.has_iff]
    constructor
    · rintro ⟨d, hd, hkey⟩
      obtain ⟨p, hp, -, hi⟩ := mem_declarations.1 hd
      exact ⟨p, hp, d.2, hi, hkey⟩
    · rintro ⟨p, hp, i, hi, hkey⟩
      exact ⟨(p.1, i), mem_declarations.2 ⟨p, hp, rfl, hi⟩, hkey⟩
  case complete_iff =>
    intro i hcomplete
    rw [h.mem_items_iff]
    constructor
    · rintro ⟨unit, hr⟩
      obtain ⟨p, hp, -, hi⟩ := mem_declarations.1 (retained_mem hr).1
      exact ⟨p, hp, hi⟩
    · rintro ⟨p, hp, hi⟩
      exact hc.retained_eq (e := (p.1, i)) (mem_declarations.2 ⟨p, hp, rfl, hi⟩) hcomplete

/-- **Nothing that is referred to is missing.** -/
theorem Keeps.closed (h : m.Keeps (declarations parts)) : m.contents.Closed := by
  intro i hi
  obtain ⟨unit, hr⟩ := h.mem_items_iff.1 hi
  obtain ⟨part, hpart, -, hi'⟩ := mem_declarations.1 (retained_mem hr).1
  refine (part.2.closed i hi').mono fun key ⟨j, hj, hkey⟩ => ?_
  exact h.has_iff.2 ⟨(part.1, j), mem_declarations.2 ⟨part, hpart, rfl, hj⟩, hkey⟩

end Merging

/-! ### The outcome -/

namespace Snapshot

/-- Two parts declare one entity completely and differently. -/
def Contradictory (parts : List (String × Snapshot)) : Prop :=
  ∃ p ∈ parts, ∃ q ∈ parts, ∃ i ∈ p.2.contents.items, ∃ j ∈ q.2.contents.items, i.Contradicts j

/-- The first contradiction, part by part: what comes before `second` fits together, `first` is the
first part to declare the entity completely, and `second` declares it differently. -/
def FirstContradiction (parts : List (String × Snapshot)) (key : Category × Uid)
    (first second : String) : Prop :=
  ∃ earlier supplier between contradictor later,
    parts = earlier ++ (first, supplier) :: between ++ (second, contradictor) :: later ∧
    ¬ Contradictory (earlier ++ (first, supplier) :: between) ∧
    (∀ p ∈ earlier, ∀ i ∈ p.2.contents.items, i.key = key → i.isOpaque = true) ∧
    ∃ i ∈ supplier.contents.items, ∃ j ∈ contradictor.contents.items,
      i.key = key ∧ i.Contradicts j

/-- A snapshot is the union of parts. -/
structure IsUnion (s : Snapshot) (parts : List (String × Snapshot)) : Prop where
  /-- The identifiers of each category are those of the parts. -/
  has_iff : ∀ key, s.contents.Has key ↔ ∃ p ∈ parts, p.2.contents.Has key
  /-- Every complete declaration is in the union. -/
  complete : ∀ p ∈ parts, ∀ i ∈ p.2.contents.items, i.isOpaque = false → i ∈ s.contents.items
  /-- A record that is complete nowhere is what the first part that has it declares. -/
  forward : ∀ earlier p later, parts = earlier ++ p :: later → ∀ i ∈ p.2.contents.items,
    (∀ q ∈ parts, ∀ j ∈ q.2.contents.items, j.key = i.key → j.isOpaque = true) →
      (∀ q ∈ earlier, ¬ q.2.contents.Has i.key) → i ∈ s.contents.items

theorem contradictory_iff {parts : List (String × Snapshot)} :
    Contradictory parts ↔ ¬ Consistent (declarations parts) := by
  simp only [Contradictory, Consistent, mem_declarations, not_forall, not_not]
  constructor
  · rintro ⟨p, hp, q, hq, i, hi, j, hj, hij⟩
    exact ⟨(p.1, i), ⟨p, hp, rfl, hi⟩, (q.1, j), ⟨q, hq, rfl, hj⟩, hij⟩
  · rintro ⟨d, ⟨p, hp, -, hi⟩, e, ⟨q, hq, -, hj⟩, hde⟩
    exact ⟨p, hp, q, hq, d.2, hi, e.2, hj, hde⟩

/-- The first contradicting declaration is a first contradiction part by part. -/
theorem firstContradiction_of_retained {parts : List (String × Snapshot)}
    {before after : List Supplied} {d k : Supplied}
    (hparts : declarations parts = before ++ d :: after) (hc : Consistent before)
    (hr : retained before d.2.key = some k) (hd : k.2.Contradicts d.2) :
    FirstContradiction parts d.2.key k.1 d.1 := by
  obtain ⟨second, j⟩ := d
  obtain ⟨ps, ⟨_, contradictor⟩, later, pre, rfl, rfl, hmem, hpre⟩ :=
    exists_parts_of_declarations hparts
  obtain ⟨rfl, hj⟩ := mem_ofPart.1 hmem
  have hfirst := retained_of_complete hr hd.left
  rw [List.find?_append, Option.or_eq_some_iff] at hfirst
  obtain hfirst | ⟨-, hfirst⟩ := hfirst
  · rw [declarations, List.find?_flatMap, List.findSome?_eq_some_iff] at hfirst
    obtain ⟨earlier, ⟨first, supplier⟩, between, rfl, hsupplier, hearlier⟩ := hfirst
    obtain ⟨hk, hkey, -⟩ := find?_complete_eq_some hsupplier
    obtain ⟨rfl, hi⟩ := mem_ofPart.1 hk
    refine ⟨earlier, supplier, between, contradictor, later, by simp, ?_, ?_,
      k.2, hi, j, hj, hkey, hd⟩
    · rw [contradictory_iff, not_not]
      exact hc.mono fun e he => List.mem_append_left _ he
    · intro p hp i hi hkey'
      simpa [hkey'] using List.find?_eq_none.1 (hearlier p hp) (p.1, i) (mem_ofPart.2 ⟨rfl, hi⟩)
  · -- What is retained is of an earlier part: one part declares an entity once.
    obtain ⟨hk, hkey, -⟩ := find?_complete_eq_some hfirst
    obtain ⟨-, hi⟩ := mem_ofPart.1 (hpre k hk)
    exact absurd (Contents.eq_of_key_eq hi hj hkey) hd.ne

/-- Parts without a contradiction come together. -/
theorem exists_keeps {parts : List (String × Snapshot)} (h : ¬ Contradictory parts) :
    ∃ m, parts.foldlM Merging.addUnit .start = .ok m ∧ m.Keeps (declarations parts) := by
  rw [contradictory_iff, not_not] at h
  obtain ⟨m, hm, hkeeps⟩ :=
    Merging.keeps_start.exists_foldlM_take (show Consistent ([] ++ declarations parts) from h)
  exact ⟨m, (Merging.foldlM_addUnit _ _).trans hm, hkeeps⟩

/-- Parts without a contradiction come together, and then layouts alone can be wrong. -/
theorem merge_of_not_contradictory {parts : List (String × Snapshot)} (h : ¬ Contradictory parts) :
    ∃ m : Merging, m.Keeps (declarations parts) ∧
      ((∃ s, s.contents = m.contents ∧ merge parts = .ok s) ∨
        ∃ uid reason, merge parts = .error
          ((Error.ofFault (.layout uid reason)).within "validating merged representation")) := by
  obtain ⟨m, hm, hkeeps⟩ := exists_keeps h
  refine ⟨m, hkeeps, ?_⟩
  simp only [merge, hm]
  cases hc : ofContents m.contents with
  | ok s => exact .inl ⟨s, ofContents_eq_ok_iff.1 hc, rfl⟩
  | error fault =>
    obtain ⟨uid, reason, rfl⟩ := hkeeps.closed.exists_layout hc
    exact .inr ⟨uid, reason, rfl⟩

/-- Contradictory parts fail at the first contradiction. -/
theorem merge_of_contradictory {parts : List (String × Snapshot)} (h : Contradictory parts) :
    ∃ key first second, FirstContradiction parts key first second ∧
      merge parts = .error (.ofFault (.conflicting key.1 key.2.text first second)) := by
  obtain ⟨before, d, after, k, hparts, hc, hr, hd⟩ :=
    exists_first_contradiction (contradictory_iff.1 h)
  refine ⟨d.2.key, k.1, d.1, firstContradiction_of_retained hparts hc hr hd, ?_⟩
  rw [merge, Merging.foldlM_addUnit, hparts, Merging.keeps_start.foldlM_take_eq_error hc hr hd]
  rfl

/-- A declaration that is nowhere completed is retained as the first part that has it declares
it. -/
theorem retained_of_first {earlier later : List (String × Snapshot)} {p : String × Snapshot}
    {i : Item} (hi : i ∈ p.2.contents.items)
    (hforward : ∀ q ∈ earlier ++ p :: later, ∀ j ∈ q.2.contents.items, j.key = i.key →
      j.isOpaque = true)
    (hfirst : ∀ q ∈ earlier, ¬ q.2.contents.Has i.key) :
    retained (declarations (earlier ++ p :: later)) i.key = some (p.1, i) := by
  have hmem : (p.1, i) ∈ declarations (earlier ++ p :: later) :=
    mem_declarations.2 ⟨p, by simp, rfl, hi⟩
  obtain ⟨k, hr⟩ := exists_retained hmem
  obtain ⟨hk, hkey⟩ := retained_mem hr
  obtain ⟨q, hq, -, hj⟩ := mem_declarations.1 hk
  obtain ⟨-, hfind⟩ := retained_of_forward hr (hforward q hq k.2 hj hkey)
  have hearlier : (declarations earlier).find? (·.2.key = i.key) = none := by
    simp only [List.find?_eq_none, decide_eq_true_eq]
    intro d hd hdkey
    obtain ⟨q', hq', -, hd'⟩ := mem_declarations.1 hd
    exact hfirst q' hq' ⟨d.2, hd', hdkey⟩
  rw [declarations_append, declarations_cons, List.find?_append, hearlier, List.find?_append,
    find?_ofPart hi] at hfind
  exact hr.trans hfind.symm

/-- What is retained of the parts is their union. -/
theorem isUnion_of_keeps {parts : List (String × Snapshot)} (h : ¬ Contradictory parts)
    {m : Merging} (hm : m.Keeps (declarations parts)) {s : Snapshot}
    (hs : s.contents = m.contents) : s.IsUnion parts := by
  rw [contradictory_iff, not_not] at h
  have hgathers : s.contents.Gathers parts := hs ▸ hm.gathers h
  constructor
  case has_iff => exact hgathers.has_iff
  case complete =>
    intro p hp i hi hcomplete
    exact (hgathers.complete_iff i hcomplete).2 ⟨p, hp, hi⟩
  case forward =>
    rintro earlier p later rfl i hi hforward hfirst
    rw [hs, hm.mem_items_iff]
    exact ⟨p.1, retained_of_first hi hforward hfirst⟩

/-- **The outcome of merging.**  A merge fails for a conflict exactly when two parts contradict each
other, and then names the unit of what is retained and the first later unit that contradicts it.
Otherwise it can fail for a layout only.  What it makes is the union of the parts. -/
theorem merge_outcome (parts : List (String × Snapshot)) :
    ((∃ context category uid first second,
        merge parts = .error (.model context (.conflicting category uid first second))) ↔
      Contradictory parts) ∧
    (∀ context category uid first second,
      merge parts = .error (.model context (.conflicting category uid first second)) →
        FirstContradiction parts (category, ⟨uid⟩) first second) ∧
    (¬ Contradictory parts → ∀ error, merge parts = .error error →
      ∃ context uid reason, error = .model context (.layout uid reason)) ∧
    ∀ s, merge parts = .ok s → s.IsUnion parts := by
  by_cases h : Contradictory parts
  · obtain ⟨key, first, second, hfirst, hmerge⟩ := merge_of_contradictory h
    rw [hmerge]
    refine ⟨iff_of_true ⟨_, _, _, _, _, rfl⟩ h, ?_, fun hnot => absurd h hnot, nofun⟩
    rintro context category uid first' second' ⟨⟩
    exact hfirst
  · obtain ⟨m, hm, ⟨s, hs, hmerge⟩ | ⟨uid, reason, hmerge⟩⟩ := merge_of_not_contradictory h
    · rw [hmerge]
      refine ⟨iff_of_false (by rintro ⟨_, _, _, _, _, ⟨⟩⟩) h, nofun, fun _ => nofun, ?_⟩
      rintro _ ⟨⟩
      exact isUnion_of_keeps h hm hs
    · rw [hmerge]
      refine ⟨iff_of_false (by rintro ⟨_, _, _, _, _, ⟨⟩⟩) h, nofun, ?_, nofun⟩
      rintro - _ ⟨⟩
      exact ⟨_, _, _, rfl⟩

/-- The snapshot of one record. -/
def ofRecord (r : Record)
    (h : Contents.faults { Contents.empty with records := ⟨[r], List.nodup_singleton _⟩ } = []) :
    Snapshot :=
  ⟨_, h⟩

-- The unit that only declares the record ahead is not the one that is contradicted.
example : merge [
    ("a.h", ofRecord { uid := ⟨"Node"⟩, name := "Node", isOpaque := true } (by decide)),
    ("b.h", ofRecord { uid := ⟨"Node"⟩, name := "Node", sizeBits := 32 } (by decide)),
    ("c.h", ofRecord { uid := ⟨"Node"⟩, name := "Node", sizeBits := 64 } (by decide))] =
      .error (.ofFault (.conflicting .records "Node" "b.h" "c.h")) := by
  rfl

end Snapshot

end HeaderAbi
