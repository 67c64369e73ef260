import HeaderAbi.Proofs.Extraction.Outcome
import HeaderAbi.Proofs.Snapshot.UnionLaws

/-!
# The order of declarations

What a unit declares, its forward declarations of completed records set aside, has no order
(`Contents.Collects`), so whether a unit can be extracted does not depend on the order of its
declarations (`Facts.exists_extractAs_iff`).  The result depends on it exactly when a record that no
declaration completes is declared ahead in different ways: the last of these declarations stands
(`Facts.extract_perm`).
-/

namespace HeaderAbi

/-! ### What is collected -/

/-- Contents hold what is declared, whichever of its forward declarations stands for a record that
no declaration completes. -/
structure Contents.Collects (c : Contents) (items : List Item) : Prop where
  has_iff : ∀ key, c.Has key ↔ ∃ i ∈ items, i.key = key
  complete_iff : ∀ i, i.isOpaque = false → (i ∈ c.items ↔ i ∈ items)

/-- No declaration completes the entity. -/
def OnlyAhead (items : List Item) (key : Category × Uid) : Prop :=
  ∀ i ∈ items, i.key = key → i.isOpaque = true

/-- A record that no declaration completes is declared ahead alike each time. -/
def AheadAlike (items : List Item) : Prop :=
  ∀ i ∈ items, OnlyAhead items i.key → ∀ j ∈ items, j.key = i.key → j = i

theorem DefinedOnce.of_perm {items items' : List Item} (h : items.Perm items')
    (hd : DefinedOnce items) : DefinedOnce items' :=
  (h.pairwise_iff fun hij => Std.Symm.symm _ _ hij).1 hd

namespace Contents

variable {c d : Contents} {items items' : List Item}

/-- **What is collected has no order.** -/
theorem Collects.of_perm (h : items.Perm items') (hc : c.Collects items) : c.Collects items' where
  has_iff key := by simp only [hc.has_iff key, h.mem_iff]
  complete_iff i hi := by rw [hc.complete_iff i hi, h.mem_iff]

theorem Collects.resembles (hc : c.Collects items) (hd : d.Collects items) : c.Resembles d where
  has_iff key := (hc.has_iff key).trans (hd.has_iff key).symm
  complete_iff i hi := (hc.complete_iff i hi).trans (hd.complete_iff i hi).symm

/-- What stands of declarations is what they declare. -/
theorem Stands.collects (h : c.Stands items) (hd : DefinedOnce items) : c.Collects items where
  has_iff _ := h.has_iff
  complete_iff _ hi := ⟨h.mem_of_mem_items, fun hmem => h.mem_items_of_complete hd hmem hi⟩

/-- What stands agrees when forward declarations leave no choice. -/
theorem Stands.agrees_of_aheadAlike (hc : c.Stands items) (hd : DefinedOnce items)
    (hperm : items.Perm items') (hc' : d.Stands items') (halike : AheadAlike items) :
    c.Agrees d := by
  have hresembles : c.Resembles d :=
    (hc.collects hd).resembles (((hc'.collects (hd.of_perm hperm))).of_perm hperm.symm)
  refine agrees_of_subset (fun i hi => ?_) fun key => (hresembles.has_iff key).2
  cases ho : i.isOpaque with
  | false => exact (hresembles.complete_iff i ho).1 hi
  | true =>
    have hahead : OnlyAhead items i.key := (standing_of_forward (hc.mem_items_iff.1 hi) ho).1
    obtain ⟨j, hj, hkey⟩ := (hresembles.has_iff i.key).1 ⟨i, hi, rfl⟩
    have hjmem : j ∈ items := hperm.mem_iff.2 (hc'.mem_of_mem_items hj)
    rw [← halike i (hc.mem_of_mem_items hi) hahead j hjmem hkey]
    exact hj

/-- **The last forward declaration stands** for a record that no declaration completes. -/
theorem Stands.mem_of_last {i : Item} (h : c.Stands (items ++ [i]))
    (hahead : OnlyAhead items i.key) : i ∈ c.items := by
  rw [h.mem_items_iff, standing_concat, if_pos rfl]
  cases hs : standing items i.key with
  | none => rfl
  | some k =>
    obtain ⟨hk, hkey⟩ := standing_mem hs
    exact if_pos (hahead k hk hkey)

end Contents

/-! ### Success -/

namespace Facts

open Extraction

variable {facts : Facts} {unit : String} {items : List Item} {ds : List Declaration}
  {s t : Snapshot}

/-- A unit that is extracted has declarations that stand for entities. -/
theorem exists_declares_of_extractAs (h : facts.extractAs unit = .ok s) :
    ∃ items, facts.Declares unit items := by
  obtain ⟨staging, hrun, -⟩ := Except.bind_eq_ok_iff.1 h
  unfold Declares
  generalize facts.declarations = ds at hrun
  generalize ({ draft := { unit := some unit } } : Staging) = start at hrun
  induction ds generalizing start with
  | nil => exact ⟨[], .nil⟩
  | cons d ds ih =>
    rw [List.foldlM_cons, Except.bind_eq_ok_iff] at hrun
    obtain ⟨next, hadd, hrun⟩ := hrun
    rw [Staging.add_eq, Except.bind_eq_ok_iff] at hadd
    obtain ⟨i, hi, -⟩ := hadd
    obtain ⟨items, hitems⟩ := ih next hrun
    exact ⟨i :: items, .cons hi hitems⟩

/-- What is extracted stands of the declarations. -/
theorem stands_of_extractAs (h : facts.extractAs unit = .ok s) :
    ∃ items, facts.Declares unit items ∧ DefinedOnce items ∧ s.contents.Stands items := by
  obtain ⟨items, hitems⟩ := exists_declares_of_extractAs h
  refine ⟨items, hitems, ?_⟩
  rcases extractAs_cases hitems with ⟨hd, c, hc, hextract⟩ | ⟨-, _, _, hextract⟩
  · rw [hextract] at h
    rcases finish_cases unit c with ⟨s', rfl, hs'⟩ | ⟨_, -, herror⟩
    · rw [hs'] at h
      cases h
      exact ⟨hd, hc⟩
    · rw [herror] at h
      cases h
  · rw [hextract] at h
    cases h

/-- **A unit can be extracted exactly when some snapshot collects what it declares**, and it defines
nothing twice. -/
theorem exists_extractAs_iff : (∃ s, facts.extractAs unit = .ok s) ↔
    ∃ items, facts.Declares unit items ∧ DefinedOnce items ∧
      ∃ s : Snapshot, s.contents.Collects items := by
  constructor
  · rintro ⟨s, h⟩
    obtain ⟨items, hitems, hd, hs⟩ := stands_of_extractAs h
    exact ⟨items, hitems, hd, s, hs.collects hd⟩
  · rintro ⟨items, hitems, hd, s, hs⟩
    rcases extractAs_cases hitems with ⟨-, c, hc, hextract⟩ | ⟨hnot, -⟩
    · have hresembles : s.contents.Resembles c := hs.resembles (hc.collects hd)
      have hsound : c.faults = [] := hresembles.faults_eq_nil s.sound (hresembles.closed s.closed)
      have hmade : Snapshot.ofContents c = .ok ⟨c, hsound⟩ := Snapshot.ofContents_eq_ok_iff.2 rfl
      refine ⟨⟨c, hsound⟩, ?_⟩
      rw [hextract, finish, hmade]
      rfl
    · exact absurd hd hnot

/-! ### Order -/

/-- The same unit with its declarations in another order. -/
def reorder (facts : Facts) (ds : List Declaration) : Facts := { facts with declarations := ds }

/-- Reordered declarations stand for reordered entities. -/
theorem Declares.of_perm (h : facts.declarations.Perm ds) (hitems : facts.Declares unit items) :
    ∃ items', (facts.reorder ds).Declares unit items' ∧ items.Perm items' := by
  obtain ⟨items', hitems', hperm⟩ := List.perm_comp_forall₂ h.symm hitems
  exact ⟨items', hitems', hperm.symm⟩

/-- A declaration stands for one entity. -/
theorem Declares.unique {items items' : List Item} (h : facts.Declares unit items)
    (h' : facts.Declares unit items') : items = items' :=
  List.right_unique_forall₂' (fun _ _ _ hi hj => Except.ok.inj (hi.symm.trans hj)) h h'

theorem exists_extractAs_of_perm (h : facts.declarations.Perm ds)
    (hs : facts.extractAs unit = .ok s) : ∃ t, (facts.reorder ds).extractAs unit = .ok t := by
  obtain ⟨items, hitems, hd, s', hs'⟩ := exists_extractAs_iff.1 ⟨s, hs⟩
  obtain ⟨items', hitems', hperm⟩ := hitems.of_perm h
  exact exists_extractAs_iff.2 ⟨items', hitems', hd.of_perm hperm, s', hs'.of_perm hperm⟩

/-- A record that no declaration of the unit completes is declared ahead alike each time. -/
def ForwardsAlike (facts : Facts) (unit : String) : Prop :=
  ∀ items, facts.Declares unit items → AheadAlike items

/-- A unit in another order declares the same, and the results resemble each other.  They agree when
forward declarations leave no choice. -/
theorem resembles_of_perm (h : facts.declarations.Perm ds) (hs : facts.extractAs unit = .ok s)
    (ht : (facts.reorder ds).extractAs unit = .ok t) :
    s.contents.Resembles t.contents ∧ (facts.ForwardsAlike unit → s.Agrees t) := by
  obtain ⟨items, hitems, hd, hsitems⟩ := stands_of_extractAs hs
  obtain ⟨items', hitems', hd', htitems⟩ := stands_of_extractAs ht
  obtain ⟨items'', hitems'', hperm⟩ := hitems.of_perm h
  obtain rfl : items' = items'' := hitems'.unique hitems''
  constructor
  · exact (hsitems.collects hd).resembles ((htitems.collects hd').of_perm hperm.symm)
  · intro halike
    exact hsitems.agrees_of_aheadAlike hd hperm htitems (halike items hitems)

/-- An extraction does not agree with what another declaration, brought to the end, makes of it. -/
theorem exists_reorder_not_agrees (hs : facts.extractAs unit = .ok s)
    (halike : ¬ facts.ForwardsAlike unit) :
    ∃ ds t, facts.declarations.Perm ds ∧ (facts.reorder ds).extractAs unit = .ok t ∧
      ¬ s.Agrees t := by
  obtain ⟨items, hitems, hd, hsitems⟩ := stands_of_extractAs hs
  simp only [ForwardsAlike, AheadAlike, not_forall] at halike
  obtain ⟨items', hitems', i, hi, hahead, j, hj, hkey, hne⟩ := halike
  obtain rfl : items = items' := hitems.unique hitems'
  -- The snapshot holds one of the two declarations at most; the other one goes to the end.
  obtain ⟨k, hk, hkkey, hks⟩ : ∃ k ∈ items, k.key = i.key ∧ k ∉ s.contents.items := by
    by_cases his : i ∈ s.contents.items
    · exact ⟨j, hj, hkey, fun hjs => hne (Contents.eq_of_key_eq hjs his hkey)⟩
    · exact ⟨i, hi, rfl, his⟩
  obtain ⟨before, after, rfl⟩ := List.append_of_mem hk
  have hperm : (before ++ k :: after).Perm (before ++ after ++ [k]) :=
    List.perm_middle.trans (List.perm_append_singleton k _).symm
  obtain ⟨ds, hds, hdeclares⟩ : ∃ ds, facts.declarations.Perm ds ∧
      (facts.reorder ds).Declares unit (before ++ after ++ [k]) := by
    have hcomp := List.forall₂_comp_perm_eq_perm_comp_forall₂
      (r := fun (d : Declaration) i => d.toItem unit = .ok i)
    exact (congrFun₂ hcomp _ _).mp ⟨_, hitems, hperm⟩
  obtain ⟨t, ht⟩ := exists_extractAs_of_perm hds hs
  obtain ⟨items', hitems', -, htitems⟩ := stands_of_extractAs ht
  obtain rfl := hdeclares.unique hitems'
  have hkt : k ∈ t.contents.items := by
    refine htitems.mem_of_last fun l hl hlkey => ?_
    have hl' : l ∈ before ++ k :: after := by
      rw [hperm.mem_iff]
      exact List.mem_append_left _ hl
    exact hahead l hl' (hlkey.trans hkkey)
  exact ⟨ds, t, hds, ht, fun hagree => Contents.not_agrees_of_mem hkt hks hagree.symm⟩

/-- **The order of the declarations** does not decide whether a unit can be extracted, and
extractions in different orders resemble each other.  They are equal, with one fingerprint, when
every record that no declaration completes is declared ahead alike; otherwise some order gives
another result. -/
theorem extract_perm (facts : Facts) (source : String) :
    (∀ ds, facts.declarations.Perm ds →
      ((∃ s, facts.extract source = .ok s) ↔ ∃ t, (facts.reorder ds).extract source = .ok t) ∧
      ∀ s t, facts.extract source = .ok s → (facts.reorder ds).extract source = .ok t →
        s.contents.Resembles t.contents ∧
          (facts.ForwardsAlike (facts.unitName source) →
            (s == t) = true ∧ s.fingerprint = t.fingerprint)) ∧
    ∀ s, facts.extract source = .ok s → ¬ facts.ForwardsAlike (facts.unitName source) →
      ∃ ds t, facts.declarations.Perm ds ∧ (facts.reorder ds).extract source = .ok t ∧
        (s == t) = false := by
  constructor
  · intro ds hperm
    constructor
    · constructor
      · rintro ⟨s, hs⟩
        exact exists_extractAs_of_perm hperm hs
      · rintro ⟨t, ht⟩
        have hback : (facts.reorder ds).declarations.Perm facts.declarations := hperm.symm
        obtain ⟨s, hs⟩ := exists_extractAs_of_perm hback ht
        exact ⟨s, hs⟩
    · intro s t hs ht
      obtain ⟨hresembles, hagrees⟩ := resembles_of_perm hperm hs ht
      refine ⟨hresembles, fun halike => ?_⟩
      have hagree : s.Agrees t := hagrees halike
      exact ⟨Snapshot.beq_iff_agrees.2 hagree, hagree.fingerprint_eq⟩
  · intro s hs halike
    obtain ⟨ds, t, hperm, ht, hdiffer⟩ := exists_reorder_not_agrees hs halike
    refine ⟨ds, t, hperm, ht, ?_⟩
    rw [← Bool.not_eq_true, Snapshot.beq_iff_agrees]
    exact hdiffer

/-- A unit that declares a record ahead, as a struct and as a class. -/
def unlike : Facts where
  unit := "a.h"
  declarations := [.record { name := "S" }, .record { name := "S", kind := .classType }]

theorem not_forwardsAlike_unlike : ¬ unlike.ForwardsAlike "a.h" := by
  intro h
  have hitems : unlike.Declares "a.h"
      [.record (.declared "S" .struct), .record (.declared "S" .classType)] :=
    .cons rfl (.cons rfl .nil)
  have hsame := h _ hitems (.record (.declared "S" .struct)) (by decide)
    (by unfold OnlyAhead; decide) (.record (.declared "S" .classType)) (by decide) rfl
  exact absurd hsame (by decide)

theorem extract_perm_unlike : ∃ s, unlike.extract "a.json" = .ok s ∧
    (∃ t, (unlike.reorder unlike.declarations.reverse).extract "a.json" = .ok t ∧
      s.contents.Resembles t.contents) ∧
    ∃ ds t, unlike.declarations.Perm ds ∧ (unlike.reorder ds).extract "a.json" = .ok t ∧
      (s == t) = false := by
  obtain ⟨s, hs⟩ : ∃ s, unlike.extract "a.json" = .ok s := ⟨_, rfl⟩
  obtain ⟨t, ht⟩ : ∃ t, (unlike.reorder unlike.declarations.reverse).extract "a.json" = .ok t :=
    ⟨_, rfl⟩
  have hperm : unlike.declarations.Perm unlike.declarations.reverse :=
    (List.reverse_perm _).symm
  obtain ⟨horder, hother⟩ := extract_perm unlike "a.json"
  exact ⟨s, hs, ⟨t, ht, ((horder _ hperm).2 s t hs ht).1⟩, hother s hs not_forwardsAlike_unlike⟩

/-- A unit may be extracted to different snapshots, depending on which of its declarations comes
last. -/
theorem exists_extract_perm_ne : ∃ (facts : Facts) (ds : List Declaration) (source : String)
    (s t : Snapshot), facts.declarations.Perm ds ∧ facts.extract source = .ok s ∧
      (facts.reorder ds).extract source = .ok t ∧ (s == t) = false := by
  refine ⟨unlike, unlike.declarations.reverse, "a.json",
    .ofRecord (.declared "S" .classType) (by decide), .ofRecord (.declared "S" .struct) (by decide),
    (List.reverse_perm _).symm, rfl, rfl, ?_⟩
  rw [← Bool.not_eq_true, Snapshot.beq_iff_agrees]
  exact Contents.not_agrees_of_mem (i := .record (.declared "S" .classType)) (by decide) (by decide)

end Facts

end HeaderAbi
