import HeaderAbi.Proofs.Snapshot.Union

/-!
# Laws of merging

What a merge gathers (`Contents.Gathers`) speaks of the parts without their order and without the
steps in which they came together.  It leaves open which forward declaration stands for a record
that is complete nowhere, and no layout depends on that (`Contents.Resembles.faults_eq_nil`).  So
parts can be merged exactly when some snapshot gathers them (`exists_merge_iff`), and the laws
follow:

* **Order.** Whether parts can be merged does not depend on their order.  The result depends on it
  exactly when two parts declare a record ahead differently and none completes it (`merge_perm`).
* **Steps.** Parts that are merged already can stand in for themselves at the front of a merge, and
  a part merged alone or with itself stays what it is (`merge_stepwise`).
-/

namespace HeaderAbi

namespace Contents

/-! ### Contents apart from their forward declarations -/

/-- Contents hold the same identifiers and the same complete entities. -/
structure Resembles (c d : Contents) : Prop where
  has_iff : ∀ key, c.Has key ↔ d.Has key
  complete_iff : ∀ i, i.isOpaque = false → (i ∈ c.items ↔ i ∈ d.items)

namespace Resembles

variable {c d : Contents} (h : c.Resembles d)
include h

theorem get?_record_iff {u : Uid} {r : Record} (hr : r.isOpaque = false) :
    c.records.get? u = some r ↔ d.records.get? u = some r := by
  have hmem : r ∈ c.records.entries ↔ r ∈ d.records.entries := by
    simpa using h.complete_iff (.record r) hr
  rw [Table.get?_eq_some_iff, Table.get?_eq_some_iff, hmem]

theorem get?_record_eq_none_iff {u : Uid} :
    c.records.get? u = none ↔ d.records.get? u = none := by
  have hnot := not_congr (h.has_iff (.records, u))
  rw [has_records_iff, has_records_iff] at hnot
  simp only [not_exists, not_and] at hnot
  rw [Table.get?_eq_none_iff, Table.get?_eq_none_iff]
  exact hnot

theorem get?_enum_eq (u : Uid) : c.enums.get? u = d.enums.get? u := by
  refine Option.ext fun e => ?_
  have hmem : e ∈ c.enums.entries ↔ e ∈ d.enums.entries := by
    simpa using h.complete_iff (.enum e) rfl
  rw [Table.get?_eq_some_iff, Table.get?_eq_some_iff, hmem]

/-- A record has the same size in both, which is none unless it is complete. -/
theorem elementSize_eq (u : Uid) : c.elementSize u = d.elementSize u := by
  rw [elementSize, elementSize, h.get?_enum_eq]
  cases hr : c.records.get? u with
  | none => rw [h.get?_record_eq_none_iff.1 hr]
  | some r =>
    cases hs : d.records.get? u with
    | none =>
      rw [h.get?_record_eq_none_iff.2 hs] at hr
      cases hr
    | some s =>
      by_cases hboth : r.isOpaque = true ∧ s.isOpaque = true
      · simp only [hboth.1, hboth.2, if_true]
      · -- One of the two is complete, so both are the same.
        have hsame : r = s := by
          rw [not_and_or, Bool.not_eq_true, Bool.not_eq_true] at hboth
          rcases hboth with ho | ho
          · exact Option.some.inj (((h.get?_record_iff ho).1 hr).symm.trans hs)
          · exact Option.some.inj (hr.symm.trans ((h.get?_record_iff ho).2 hs))
        rw [hsame]

/-- **No reference depends on forward declarations**, which refer to nothing themselves. -/
theorem closed (hc : c.Closed) : d.Closed := by
  intro i hi
  cases ho : i.isOpaque with
  | true => exact admits_of_isOpaque ho
  | false => exact (hc i ((h.complete_iff i ho).2 hi)).mono fun key => (h.has_iff key).1

/-- **No layout depends on forward declarations.** -/
theorem faults_eq_nil (hc : c.faults = []) (hd : d.Closed) : d.faults = [] := by
  have hrecords : ∀ r ∈ d.records.entries, r.isOpaque = false → r ∈ c.records.entries := by
    intro r hr ho
    simpa using (h.complete_iff (.record r) ho).2 (record_mem_items.2 hr)
  rw [closed_iff.1 hd, allLayoutFaults_eq_nil_iff]
  intro r hr ho
  have hsound : c.SoundLayout r := (faults_eq_nil_iff.1 hc).layouts r (hrecords r hr ho) ho
  exact hsound.congr h.elementSize_eq hrecords

end Resembles

end Contents

/-- No part declares the entity completely. -/
def Snapshot.NowhereComplete (parts : List (String × Snapshot)) (key : Category × Uid) : Prop :=
  ∀ p ∈ parts, ∀ i ∈ p.2.contents.items, i.key = key → i.isOpaque = true

/-! ### What is gathered -/

namespace Contents.Gathers

variable {c d : Contents} {parts parts' : List (String × Snapshot)}

theorem resembles (hc : c.Gathers parts) (hd : d.Gathers parts) : c.Resembles d where
  has_iff key := (hc.has_iff key).trans (hd.has_iff key).symm
  complete_iff i hi := (hc.complete_iff i hi).trans (hd.complete_iff i hi).symm

/-- **What is gathered has no order.** -/
theorem of_perm (h : parts.Perm parts') (hc : c.Gathers parts) : c.Gathers parts' := by
  constructor
  case has_iff =>
    intro key
    simp only [hc.has_iff key, h.mem_iff]
  case complete_iff =>
    intro i hi
    simp only [hc.complete_iff i hi, h.mem_iff]

/-- **What is gathered has no steps**: what gathers some parts can stand in for them. -/
theorem append_iff {ps qs : List (String × Snapshot)} {m : Snapshot} {u : String}
    (hm : m.contents.Gathers ps) : c.Gathers (ps ++ qs) ↔ c.Gathers ((u, m) :: qs) := by
  have hsome : ∀ P : Snapshot → Prop, (P m ↔ ∃ p ∈ ps, P p.2) →
      ((∃ p ∈ ps ++ qs, P p.2) ↔ ∃ p ∈ (u, m) :: qs, P p.2) := by
    intro P hP
    simp only [List.mem_append, List.mem_cons, or_and_right, exists_or, exists_eq_left, hP]
  have hhas := fun key => hsome (fun s => s.contents.Has key) (hm.has_iff key)
  have hcomplete := fun i hi => hsome (fun s => i ∈ s.contents.items) (hm.complete_iff i hi)
  constructor
  · intro h
    exact ⟨fun key => (h.has_iff key).trans (hhas key),
      fun i hi => (h.complete_iff i hi).trans (hcomplete i hi)⟩
  · intro h
    exact ⟨fun key => (h.has_iff key).trans (hhas key).symm,
      fun i hi => (h.complete_iff i hi).trans (hcomplete i hi).symm⟩

theorem not_contradictory (h : c.Gathers parts) : ¬ Snapshot.Contradictory parts := by
  rintro ⟨p, hp, q, hq, i, hi, j, hj, hij⟩
  have hic : i ∈ c.items := (h.complete_iff i hij.left).2 ⟨p, hp, hi⟩
  have hjc : j ∈ c.items := (h.complete_iff j hij.right).2 ⟨q, hq, hj⟩
  exact hij.ne (eq_of_key_eq hic hjc hij.key_eq)

/-- A forward declaration stands only for what no part completes. -/
theorem nowhereComplete (h : c.Gathers parts) {i : Item} (hi : i ∈ c.items)
    (ho : i.isOpaque = true) : Snapshot.NowhereComplete parts i.key := by
  intro p hp j hj hkey
  by_contra hcomplete
  rw [Bool.not_eq_true] at hcomplete
  have hjc : j ∈ c.items := (h.complete_iff j hcomplete).2 ⟨p, hp, hj⟩
  rw [eq_of_key_eq hjc hi hkey, ho] at hcomplete
  cases hcomplete

end Contents.Gathers

namespace Snapshot

variable {parts parts' : List (String × Snapshot)} {s t : Snapshot}

/-! ### Successful merges -/

theorem exists_keeps_of_merge (h : merge parts = .ok s) :
    ¬ Contradictory parts ∧ ∃ m : Merging, m.Keeps (declarations parts) ∧
      s.contents = m.contents := by
  have hcompatible : ¬ Contradictory parts := by
    intro hcontra
    obtain ⟨key, first, second, -, hmerge⟩ := merge_of_contradictory hcontra
    rw [hmerge] at h
    cases h
  refine ⟨hcompatible, ?_⟩
  obtain ⟨m, hm, ⟨s', hs', hmerge⟩ | ⟨uid, reason, hmerge⟩⟩ :=
    merge_of_not_contradictory hcompatible
  · rw [hmerge] at h
    cases h
    exact ⟨m, hm, hs'⟩
  · rw [hmerge] at h
    cases h

/-- **A merge finds under an identifier** what is retained of the declarations of its parts. -/
theorem item?_merge (h : merge parts = .ok s) (key : Category × Uid) :
    s.contents.item? key = (retained (declarations parts) key).map Prod.snd := by
  obtain ⟨-, m, hm, hs⟩ := exists_keeps_of_merge h
  have hkept : (m.kept key).map Prod.snd = m.contents.item? key := by
    rw [Merging.kept, Option.map_map]
    exact Option.map_id'
  rw [hs, ← hkept, hm key]

/-- A merge gathers its parts. -/
theorem gathers_of_merge (h : merge parts = .ok s) : s.contents.Gathers parts := by
  obtain ⟨hcompatible, m, hm, hs⟩ := exists_keeps_of_merge h
  rw [contradictory_iff, not_not] at hcompatible
  rw [hs]
  exact hm.gathers hcompatible

/-- Everything in a merge is declared by some part. -/
theorem exists_part_of_mem_merge (h : merge parts = .ok s) {i : Item}
    (hi : i ∈ s.contents.items) : ∃ p ∈ parts, i ∈ p.2.contents.items := by
  have hfound : s.contents.item? i.key = some i := Contents.mem_items_iff.1 hi
  rw [item?_merge h, Option.map_eq_some_iff] at hfound
  obtain ⟨d, hr, rfl⟩ := hfound
  obtain ⟨p, hp, -, hmem⟩ := mem_declarations.1 (retained_mem hr).1
  exact ⟨p, hp, hmem⟩

/-- **Parts can be merged exactly when some snapshot gathers them.** -/
theorem exists_merge_iff :
    (∃ s, merge parts = .ok s) ↔ ∃ s : Snapshot, s.contents.Gathers parts := by
  constructor
  · rintro ⟨s, h⟩
    exact ⟨s, gathers_of_merge h⟩
  · rintro ⟨s, h⟩
    have hcompatible := h.not_contradictory
    obtain ⟨m, hm, hkeeps⟩ := exists_keeps hcompatible
    rw [contradictory_iff, not_not] at hcompatible
    have hresembles : s.contents.Resembles m.contents := h.resembles (hkeeps.gathers hcompatible)
    have hsound : m.contents.faults = [] := hresembles.faults_eq_nil s.sound hkeeps.closed
    have hmade : ofContents m.contents = .ok ⟨m.contents, hsound⟩ := ofContents_eq_ok_iff.2 rfl
    refine ⟨⟨m.contents, hsound⟩, ?_⟩
    simp only [merge, hm, hmade]

/-! ### Order -/

/-- **Whether parts can be merged does not depend on their order.** -/
theorem exists_merge_perm_iff (h : parts.Perm parts') :
    (∃ s, merge parts = .ok s) ↔ ∃ t, merge parts' = .ok t := by
  rw [exists_merge_iff, exists_merge_iff]
  constructor
  · rintro ⟨s, hs⟩
    exact ⟨s, hs.of_perm h⟩
  · rintro ⟨t, ht⟩
    exact ⟨t, ht.of_perm h.symm⟩

/-- A record that no part completes is declared ahead alike in all of them. -/
def ForwardsAlike (parts : List (String × Snapshot)) : Prop :=
  ∀ p ∈ parts, ∀ i ∈ p.2.contents.items, NowhereComplete parts i.key →
    ∀ q ∈ parts, ∀ j ∈ q.2.contents.items, j.key = i.key → j = i

/-- Merges of the same parts agree when forward declarations leave no choice. -/
theorem agrees_of_forwardsAlike (halike : ForwardsAlike parts) (hs : merge parts = .ok s)
    (hperm : parts.Perm parts') (ht : merge parts' = .ok t) : s.Agrees t := by
  have hresembles : s.contents.Resembles t.contents :=
    (gathers_of_merge hs).resembles ((gathers_of_merge ht).of_perm hperm.symm)
  refine Contents.agrees_of_subset (fun i hi => ?_) fun key => (hresembles.has_iff key).2
  cases ho : i.isOpaque with
  | false => exact (hresembles.complete_iff i ho).1 hi
  | true =>
    obtain ⟨p, hp, hip⟩ := exists_part_of_mem_merge hs hi
    obtain ⟨j, hj, hkey⟩ := (hresembles.has_iff i.key).1 ⟨i, hi, rfl⟩
    obtain ⟨q, hq, hjq⟩ := exists_part_of_mem_merge ht hj
    have hforward : NowhereComplete parts i.key := (gathers_of_merge hs).nowhereComplete hi ho
    rw [← halike p hp i hip hforward q (hperm.mem_iff.2 hq) j hjq hkey]
    exact hj

/-- **The part that comes first decides** which forward declaration stands for a record that no part
completes. -/
theorem mem_merge_of_head {p : String × Snapshot} {i : Item} (hi : i ∈ p.2.contents.items)
    (hforward : NowhereComplete (p :: parts) i.key) (hs : merge (p :: parts) = .ok s) :
    i ∈ s.contents.items := by
  have hr : retained (declarations ([] ++ p :: parts)) i.key = some (p.1, i) :=
    retained_of_first hi hforward nofun
  rw [Contents.mem_items_iff, item?_merge hs, ← List.nil_append (p :: parts), hr]
  rfl

/-- A merge does not agree with what another part, brought to the front, makes of it. -/
theorem exists_perm_not_agrees (halike : ¬ ForwardsAlike parts) (hs : merge parts = .ok s) :
    ∃ parts' t, parts.Perm parts' ∧ merge parts' = .ok t ∧ ¬ s.Agrees t := by
  simp only [ForwardsAlike, not_forall] at halike
  obtain ⟨p, hp, i, hi, hforward, q, hq, j, hj, hkey, hne⟩ := halike
  -- The merge holds one of the two declarations at most; the other one's part goes to the front.
  have hother : ∃ p ∈ parts, ∃ k ∈ p.2.contents.items, k.key = i.key ∧ k ∉ s.contents.items := by
    by_cases his : i ∈ s.contents.items
    · exact ⟨q, hq, j, hj, hkey, fun hjs => hne (Contents.eq_of_key_eq hjs his hkey)⟩
    · exact ⟨p, hp, i, hi, rfl, his⟩
  obtain ⟨r, hr, k, hk, hkkey, hks⟩ := hother
  obtain ⟨before, after, rfl⟩ := List.append_of_mem hr
  have hperm : (before ++ r :: after).Perm (r :: (before ++ after)) := List.perm_middle
  obtain ⟨t, ht⟩ := (exists_merge_perm_iff hperm).1 ⟨s, hs⟩
  have hkt : k ∈ t.contents.items := by
    refine mem_merge_of_head hk (fun q hq j hj hkey => ?_) ht
    exact hforward q (hperm.mem_iff.2 hq) j hj (hkey.trans hkkey)
  exact ⟨_, t, hperm, ht, fun hagree => Contents.not_agrees_of_mem hkt hks hagree.symm⟩

/-- **The order of the parts** does not decide whether they can be merged, and merges in different
orders resemble each other.  They are equal, with one fingerprint, when every record that no part
completes is declared ahead alike; otherwise some order gives another result. -/
theorem merge_perm (parts : List (String × Snapshot)) :
    (∀ parts', parts.Perm parts' →
      ((∃ s, merge parts = .ok s) ↔ ∃ t, merge parts' = .ok t) ∧
      ∀ s t, merge parts = .ok s → merge parts' = .ok t →
        s.contents.Resembles t.contents ∧
          (ForwardsAlike parts → (s == t) = true ∧ s.fingerprint = t.fingerprint)) ∧
    ∀ s, merge parts = .ok s → ¬ ForwardsAlike parts →
      ∃ parts' t, parts.Perm parts' ∧ merge parts' = .ok t ∧ (s == t) = false := by
  constructor
  · intro parts' hperm
    refine ⟨exists_merge_perm_iff hperm, fun s t hs ht => ⟨?_, fun halike => ?_⟩⟩
    · exact (gathers_of_merge hs).resembles ((gathers_of_merge ht).of_perm hperm.symm)
    · have hagree := agrees_of_forwardsAlike halike hs hperm ht
      exact ⟨beq_iff_agrees.2 hagree, hagree.fingerprint_eq⟩
  · intro s hs halike
    obtain ⟨parts', t, hperm, ht, hdiffer⟩ := exists_perm_not_agrees halike hs
    refine ⟨parts', t, hperm, ht, ?_⟩
    rw [← Bool.not_eq_true, beq_iff_agrees]
    exact hdiffer

/-- A unit that only declares a record ahead. -/
def ahead (kind : RecordKind) : Snapshot :=
  ofRecord (.declared "Node" kind) (by cases kind <;> decide)

/-- Two units that declare a record ahead, as a struct and as a class. -/
def unlike : List (String × Snapshot) := [("a.h", ahead .struct), ("b.h", ahead .classType)]

theorem not_forwardsAlike_unlike : ¬ ForwardsAlike unlike := by
  intro h
  have hforward : NowhereComplete unlike (.records, .ofName "Node") := by
    unfold NowhereComplete
    decide
  have hsame := h ("a.h", ahead .struct) (by simp [unlike]) (.record (.declared "Node" .struct))
    (by decide) hforward ("b.h", ahead .classType) (by simp [unlike])
    (.record (.declared "Node" .classType)) (by decide) rfl
  exact absurd hsame (by decide)

theorem merge_perm_unlike : ∃ s, merge unlike = .ok s ∧
    (∃ t, merge unlike.reverse = .ok t ∧ s.contents.Resembles t.contents) ∧
      ∃ parts' t, unlike.Perm parts' ∧ merge parts' = .ok t ∧ (s == t) = false := by
  have hs : merge unlike = .ok (ahead .struct) := rfl
  have ht : merge unlike.reverse = .ok (ahead .classType) := rfl
  have hperm : unlike.Perm unlike.reverse := (List.reverse_perm unlike).symm
  refine ⟨_, hs, ⟨_, ht, ?_⟩, (merge_perm unlike).2 _ hs not_forwardsAlike_unlike⟩
  exact (((merge_perm unlike).1 _ hperm).2 _ _ hs ht).1

/-- Two units may be merged to different snapshots, depending on which of them comes first. -/
theorem exists_merge_perm_ne : ∃ (parts parts' : List (String × Snapshot)) (s t : Snapshot),
    parts.Perm parts' ∧ merge parts = .ok s ∧ merge parts' = .ok t ∧ (s == t) = false := by
  refine ⟨unlike, unlike.reverse, ahead .struct, ahead .classType,
    (List.reverse_perm unlike).symm, rfl, rfl, ?_⟩
  rw [← Bool.not_eq_true, beq_iff_agrees]
  exact Contents.not_agrees_of_mem (i := .record (.declared "Node" .struct)) (by decide) (by decide)

/-! ### Steps -/

/-- What is retained of more declarations depends on the earlier ones through what is retained of
them, the unit that supplied it set aside. -/
theorem retained_append_congr {ds ds' es : List Supplied} {key : Category × Uid}
    (h : (retained ds key).map Prod.snd = (retained ds' key).map Prod.snd) :
    (retained (ds ++ es) key).map Prod.snd = (retained (ds' ++ es) key).map Prod.snd := by
  induction es using List.reverseRec with
  | nil => simpa using h
  | append_singleton es e ih =>
    rw [← List.append_assoc, ← List.append_assoc, retained_concat, retained_concat]
    by_cases hkey : e.2.key = key
    · rw [if_pos hkey, if_pos hkey]
      cases hr : retained (ds ++ es) key with
      | none =>
        rw [hr, Option.map_none, eq_comm, Option.map_eq_none_iff] at ih
        rw [ih]
      | some k =>
        rw [hr, Option.map_some, eq_comm, Option.map_eq_some_iff] at ih
        obtain ⟨k', hr', hsame⟩ := ih
        rw [hr']
        simp only [hsame]
        split
        · rfl
        · simp only [Option.map_some, hsame]
    · rw [if_neg hkey, if_neg hkey]
      exact ih

/-- A part retains its own entities. -/
theorem retained_ofPart {part : String × Snapshot} {key : Category × Uid} :
    (retained (ofPart part) key).map Prod.snd = part.2.contents.item? key := by
  refine Option.ext fun i => ?_
  rw [Contents.item?_eq_some_iff, Option.map_eq_some_iff]
  constructor
  · rintro ⟨d, hd, rfl⟩
    obtain ⟨hmem, hkey⟩ := retained_mem hd
    exact ⟨(mem_ofPart.1 hmem).2, hkey⟩
  · rintro ⟨hi, rfl⟩
    obtain ⟨d, hd⟩ := exists_retained (mem_ofPart.2 ⟨rfl, hi⟩ : (part.1, i) ∈ ofPart part)
    obtain ⟨hmem, hkey⟩ := retained_mem hd
    exact ⟨d, hd, Contents.eq_of_key_eq (mem_ofPart.1 hmem).2 hi hkey⟩

/-- Parts that are merged already can stand in for themselves. -/
theorem exists_merge_append_iff {ps qs : List (String × Snapshot)} {u : String} {m : Snapshot}
    (hm : merge ps = .ok m) :
    (∃ s, merge (ps ++ qs) = .ok s) ↔ ∃ t, merge ((u, m) :: qs) = .ok t := by
  have hgathers : m.contents.Gathers ps := gathers_of_merge hm
  rw [exists_merge_iff, exists_merge_iff]
  exact exists_congr fun s => hgathers.append_iff

/-- The merge of all parts agrees with the merge that starts from some of them, already merged. -/
theorem agrees_of_merge_append {ps qs : List (String × Snapshot)} {u : String} {m : Snapshot}
    (hm : merge ps = .ok m) (hs : merge (ps ++ qs) = .ok s) (ht : merge ((u, m) :: qs) = .ok t) :
    s.Agrees t := by
  refine Contents.agrees_of_item?_eq fun key => ?_
  have hretained : (retained (declarations ps) key).map Prod.snd =
      (retained (ofPart (u, m)) key).map Prod.snd := by
    rw [retained_ofPart, ← item?_merge hm]
  rw [item?_merge hs, item?_merge ht, declarations_append, declarations_cons]
  exact retained_append_congr hretained

/-- **Parts that are all the same** merge to what each of them is. -/
theorem exists_merge_of_forall_eq {p : Snapshot} (hne : parts ≠ []) (h : ∀ q ∈ parts, q.2 = p) :
    ∃ s, merge parts = .ok s ∧ s.Agrees p := by
  obtain ⟨first, hfirst⟩ := List.exists_mem_of_ne_nil _ hne
  have hsome : ∀ P : Snapshot → Prop, P p ↔ ∃ q ∈ parts, P q.2 := by
    intro P
    constructor
    · intro hp
      exact ⟨first, hfirst, (h first hfirst).symm ▸ hp⟩
    · rintro ⟨q, hq, hP⟩
      exact h q hq ▸ hP
  have hgathers : p.contents.Gathers parts :=
    ⟨fun key => hsome fun s => s.contents.Has key, fun i _ => hsome fun s => i ∈ s.contents.items⟩
  obtain ⟨s, hs⟩ := exists_merge_iff.2 ⟨p, hgathers⟩
  refine ⟨s, hs, Contents.agrees_of_subset (fun i hi => ?_) fun key hkey => ?_⟩
  · obtain ⟨q, hq, hiq⟩ := exists_part_of_mem_merge hs hi
    rw [← h q hq]
    exact hiq
  · exact ((gathers_of_merge hs).has_iff key).2 ((hgathers.has_iff key).1 hkey)

/-- **Merging goes in steps.** Parts that are merged already can stand in for themselves, under any
name, at the front of a merge.  A part that is merged alone, or with itself, stays what it is. -/
theorem merge_stepwise :
    (∀ ps qs u m, merge ps = .ok m →
      ((∃ s, merge (ps ++ qs) = .ok s) ↔ ∃ t, merge ([(u, m)] ++ qs) = .ok t) ∧
        ∀ s t, merge (ps ++ qs) = .ok s → merge ([(u, m)] ++ qs) = .ok t →
          (s == t) = true ∧ s.fingerprint = t.fingerprint) ∧
    ∀ u v p, (∃ s, merge [(u, p)] = .ok s ∧ (s == p) = true ∧ s.fingerprint = p.fingerprint) ∧
      ∃ s, merge [(u, p), (v, p)] = .ok s ∧ (s == p) = true ∧ s.fingerprint = p.fingerprint := by
  constructor
  · intro ps qs u m hm
    refine ⟨exists_merge_append_iff hm, fun s t hs ht => ?_⟩
    have hagree : s.Agrees t := agrees_of_merge_append hm hs ht
    exact ⟨beq_iff_agrees.2 hagree, hagree.fingerprint_eq⟩
  · intro u v p
    have halone : ∀ parts : List (String × Snapshot), parts ≠ [] → (∀ q ∈ parts, q.2 = p) →
        ∃ s, merge parts = .ok s ∧ (s == p) = true ∧ s.fingerprint = p.fingerprint := by
      intro parts hne h
      obtain ⟨s, hs, hagree⟩ := exists_merge_of_forall_eq hne h
      exact ⟨s, hs, beq_iff_agrees.2 hagree, hagree.fingerprint_eq⟩
    exact ⟨halone _ (by simp) (by simp), halone _ (by simp) (by simp)⟩

/-- The unit that completes the record. -/
def defined : Snapshot := ofRecord (.complete "Node" .struct 32 32) (by decide)

/-- An enumeration with two enumerators. -/
def signal : EnumType :=
  ((EnumType.ofName "Signal").addEnumerator "STOP" (.signed 0)).addEnumerator "GO" (.signed 1)

/-- The unit that has the enumeration. -/
def signals : Snapshot :=
  ⟨{ Contents.empty with enums := ⟨[signal], List.nodup_singleton _⟩ }, by decide⟩

/-- Both, with the record declared ahead. -/
def begun : Snapshot :=
  ⟨{ (ahead .struct).contents with enums := signals.enums }, by decide⟩

/-- Both, with the record complete. -/
def completed : Snapshot := ⟨{ defined.contents with enums := signals.enums }, by decide⟩

-- The record is declared ahead in what is merged already and completed by the next unit.
theorem merge_stepwise_defined :
    merge [("a.h", ahead .struct), ("signal.h", signals)] = .ok begun ∧
      ∃ s t,
        merge ([("a.h", ahead .struct), ("signal.h", signals)] ++ [("b.h", defined)]) = .ok s ∧
        merge ([("a", begun)] ++ [("b.h", defined)]) = .ok t ∧
        (s == t) = true ∧ s.fingerprint = t.fingerprint := by
  have hm : merge [("a.h", ahead .struct), ("signal.h", signals)] = .ok begun := rfl
  have hs : merge ([("a.h", ahead .struct), ("signal.h", signals)] ++ [("b.h", defined)]) =
      .ok completed := rfl
  obtain ⟨hexists, hsame⟩ := merge_stepwise.1 _ [("b.h", defined)] "a" _ hm
  obtain ⟨t, ht⟩ := hexists.1 ⟨_, hs⟩
  exact ⟨hm, completed, t, hs, ht, hsame _ t hs ht⟩

end Snapshot

end HeaderAbi
