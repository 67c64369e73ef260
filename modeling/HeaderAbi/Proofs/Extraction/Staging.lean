import HeaderAbi.Proofs.Extraction.Mapping
import HeaderAbi.Proofs.Extraction.Standing

/-!
# What staging holds

Records wait until all declarations of a unit are read; everything else, and the second definition
of a record, goes to the draft at once.  What waits under an identifier depends on the declarations
read so far alone: it is the one that stands among them (`Follows`).

* One step keeps this so, or meets an entity that is there already (`Follows.step`).
* A run of steps follows by induction (`Follows.run`).
* At the end the records join the draft (`Follows.addAll_records`), unless one of them was defined
  twice (`Follows.duplicate_of_second`).
-/

namespace HeaderAbi

/-! ### Entities of a list -/

namespace Item

variable {i : Item} {items : List Item}

@[simp] theorem record?_eq_some_iff {r : Record} : i.record? = some r ↔ i = .record r := by
  cases i <;> simp [record?]

@[simp] theorem enum?_eq_some_iff {e : EnumType} : i.enum? = some e ↔ i = .enum e := by
  cases i <;> simp [enum?]

@[simp] theorem function?_eq_some_iff {f : Function} : i.function? = some f ↔ i = .function f := by
  cases i <;> simp [function?]

@[simp] theorem global?_eq_some_iff {g : GlobalVar} : i.global? = some g ↔ i = .global g := by
  cases i <;> simp [global?]

/-- The entities that are no records. -/
def others (items : List Item) : List Item := items.filter fun i => i.record?.isNone

theorem mem_others : i ∈ others items ↔ i ∈ items ∧ i.key.1 ≠ .records := by
  rw [others, List.mem_filter, and_congr_right_iff]
  intro _
  cases i <;> simp [record?, key]

theorem others_concat_record (r : Record) : others (items ++ [.record r]) = others items := by
  simp [others, record?]

theorem others_concat (h : i.key.1 ≠ .records) : others (items ++ [i]) = others items ++ [i] := by
  cases i <;> simp [others, record?, key] at h ⊢

theorem filterMap_others (items : List Item) :
    (others items).filterMap record? = [] ∧
      (others items).filterMap enum? = items.filterMap enum? ∧
      (others items).filterMap function? = items.filterMap function? ∧
      (others items).filterMap global? = items.filterMap global? := by
  simp only [others, List.filterMap_filter, List.filterMap_eq_nil_iff]
  refine ⟨fun i _ => by cases i <;> rfl, ?_, ?_, ?_⟩ <;>
    exact List.filterMap_congr fun i _ => by cases i <;> rfl

end Item

theorem Contents.Holds.mem_items_iff {c : Contents} {items : List Item} (h : c.Holds items)
    {i : Item} : i ∈ c.items ↔ i ∈ items := by
  cases i <;> simp [h.records, h.enums, h.functions, h.globals]

/-! ### Drafts -/

namespace Draft

theorem add_eq_error_iff {α : Type} [Stored α] {d : Draft} {a : α} {fault : Fault} :
    d.add a = .error fault ↔ (Stored.table d.contents : Table α).contains (Entity.uid a) = true ∧
      fault = .duplicate (Entity.category α) (Entity.uid a).text d.unit := by
  rw [add, Table.insert?]
  by_cases h : (Stored.table d.contents : Table α).contains (Entity.uid a) = true
  · simp [h, eq_comm]
  · simp [h]

/-- **An entity is refused** exactly when there is one under its identifier, as a duplicate in the
unit of the draft. -/
theorem addItem_eq_error_iff {d : Draft} {i : Item} {fault : Fault} :
    d.addItem i = .error fault ↔
      d.contents.Has i.key ∧ fault = .duplicate i.key.1 i.key.2.text d.unit := by
  cases i <;> rw [addItem, add_eq_error_iff, Table.contains_iff_exists] <;>
    simp [Contents.Has, Contents.items, Item.key, Stored.table, or_and_right, exists_or] <;> rfl

theorem unit_of_addItem {d d' : Draft} {i : Item} (h : d.addItem i = .ok d') :
    d'.unit = d.unit := by
  cases i <;> obtain ⟨t, -, rfl⟩ := add_eq_ok_iff.1 h <;> rfl

theorem addAll_eq_foldlM_addItem (d : Draft) (rs : List Record) :
    d.addAll rs = (rs.map Item.record).foldlM addItem d := by
  rw [List.foldlM_map]
  rfl

/-- A run of steps that fails met a duplicate. -/
theorem duplicate_of_foldlM_addItem {d : Draft} {items : List Item} {fault : Fault}
    (h : items.foldlM addItem d = .error fault) :
    ∃ category uid, fault = .duplicate category uid d.unit := by
  induction items generalizing d with
  | nil => cases h
  | cons i items ih =>
    rw [List.foldlM_cons] at h
    cases hadd : d.addItem i with
    | error fault' =>
      rw [hadd] at h
      cases h
      exact ⟨_, _, (addItem_eq_error_iff.1 hadd).2⟩
    | ok d₁ =>
      rw [hadd] at h
      rw [← unit_of_addItem hadd]
      exact ih h

end Draft

/-! ### One step -/

namespace Extraction.Staging

/-- What staging holds after some declarations of a unit: `seconds` are the second definitions of
records, which went to the draft. -/
structure Follows (s : Staging) (unit : String) (seconds : List Record) (done : List Item) :
    Prop where
  unit_eq : s.draft.unit = some unit
  drafted : s.draft.contents.Holds (seconds.map .record ++ Item.others done)
  staged : ∀ u, (s.records.get? u).map Item.record = standing done (.records, u)
  second_mem : ∀ r ∈ seconds, .record r ∈ done
  definedOnce_iff : DefinedOnce done ↔ seconds = []

/-- The entities of the draft and the records that wait. -/
def collected (s : Staging) : Contents := { s.draft.contents with records := s.records }

theorem follows_start (unit : String) :
    Follows { draft := { unit := some unit } } unit [] [] where
  unit_eq := rfl
  drafted := ⟨rfl, rfl, rfl, rfl⟩
  staged _ := rfl
  second_mem := nofun
  definedOnce_iff := by simp [DefinedOnce]

variable {s s' : Staging} {unit : String} {seconds : List Record} {done : List Item} {i k : Item}
  {r : Record}

theorem addItem_of_ne_records (s : Staging) (h : i.key.1 ≠ .records) :
    s.addItem i = do return { s with draft := ← lift (s.draft.addItem i) } := by
  cases i with
  | record r => exact absurd rfl h
  | enum e => rfl
  | function f => rfl
  | global g => rfl

namespace Follows

/-- One more declaration, compatible with the others, leaves the second definitions alone. -/
theorem concat (h : s.Follows unit seconds done) (hunit : s'.draft.unit = s.draft.unit)
    (hdrafted : s'.draft.contents.Holds (seconds.map .record ++ Item.others (done ++ [i])))
    (hstaged : ∀ u, (s'.records.get? u).map Item.record = standing (done ++ [i]) (.records, u))
    (hcompatible : ∀ j ∈ done, j.Compatible i) : s'.Follows unit seconds (done ++ [i]) where
  unit_eq := hunit.trans h.unit_eq
  drafted := hdrafted
  staged := hstaged
  second_mem r hr := List.mem_append_left _ (h.second_mem r hr)
  definedOnce_iff := by
    rw [definedOnce_concat_iff, and_iff_left hcompatible]
    exact h.definedOnce_iff

/-- The draft has an entity that is no record exactly when it was declared. -/
theorem has_iff (h : s.Follows unit seconds done) (hi : i.key.1 ≠ .records) :
    s.draft.contents.Has i.key ↔ ∃ j ∈ done, j.key = i.key := by
  constructor
  · rintro ⟨j, hj, hkey⟩
    rw [h.drafted.mem_items_iff, List.mem_append, Item.mem_others] at hj
    rcases hj with hj | hj
    · obtain ⟨r, -, rfl⟩ := List.mem_map.1 hj
      exact absurd (congrArg Prod.fst hkey).symm hi
    · exact ⟨j, hj.1, hkey⟩
  · rintro ⟨j, hj, hkey⟩
    refine ⟨j, ?_, hkey⟩
    rw [h.drafted.mem_items_iff, List.mem_append, Item.mem_others, hkey]
    exact .inr ⟨hj, hi⟩

/-- An entity that is no record joins the draft, or is a duplicate. -/
theorem step_other (h : s.Follows unit seconds done) (hi : i.key.1 ≠ .records) :
    (∃ s', s.addItem i = .ok s' ∧ s'.Follows unit seconds (done ++ [i])) ∨
      ¬ DefinedOnce (done ++ [i]) ∧ ∃ category uid,
        s.addItem i = .error (.ofFault (.duplicate category uid (some unit))) := by
  rw [addItem_of_ne_records s hi]
  cases hadd : s.draft.addItem i with
  | error fault =>
    obtain ⟨hhas, rfl⟩ := Draft.addItem_eq_error_iff.1 hadd
    obtain ⟨j, hj, hkey⟩ := (h.has_iff hi).1 hhas
    rw [h.unit_eq]
    refine .inr ⟨fun hd => ?_, _, _, rfl⟩
    have hcompatible : j.Compatible i := (definedOnce_concat_iff.1 hd).2 j hj
    rcases hcompatible hkey with hforward | hforward
    · exact hi (hkey ▸ Item.category_of_isOpaque hforward)
    · exact hi (Item.category_of_isOpaque hforward)
  | ok d' =>
    obtain ⟨hunit, hholds⟩ := Draft.holds_of_addItem h.drafted hadd
    refine .inl ⟨_, rfl, h.concat hunit ?_ ?_ ?_⟩
    · rw [Item.others_concat hi, ← List.append_assoc]
      exact hholds
    · intro u
      rw [standing_concat, if_neg fun hkey => hi (congrArg Prod.fst hkey)]
      exact h.staged u
    · intro j hj hkey
      have herror := Draft.addItem_eq_error_iff.2 ⟨(h.has_iff hi).2 ⟨j, hj, hkey⟩, rfl⟩
      rw [hadd] at herror
      cases herror

/-- A record joins those that wait, in the place of a forward declaration. -/
theorem stage (h : s.Follows unit seconds done)
    (hforward : ∀ k, standing done (.records, r.uid) = some k → k.isOpaque = true) :
    Follows { s with records := s.records.put r } unit seconds (done ++ [.record r]) := by
  refine h.concat rfl ?_ ?_ ?_
  · rw [Item.others_concat_record]
    exact h.drafted
  · intro u
    rw [Table.get?_put, standing_concat]
    by_cases hu : r.uid = u
    · subst hu
      rw [if_pos (by rfl), if_pos (by rfl)]
      cases hs : standing done (.records, r.uid) with
      | none => rfl
      | some k => simp [hforward k hs]
    · rw [if_neg (by exact hu), if_neg (by simpa [Item.key] using hu)]
      exact h.staged u
  · intro j hj hkey
    obtain ⟨k, hk⟩ := exists_standing hj
    rw [hkey] at hk
    exact .inl ((standing_of_forward hk (hforward k hk)).1 j hj hkey)

/-- What stands for a record that is defined goes on to stand. -/
theorem standing_concat_of_defined (hs : standing done (.records, r.uid) = some k)
    (hk : k.isOpaque = false) (u : Uid) :
    standing (done ++ [.record r]) (.records, u) = standing done (.records, u) := by
  rw [standing_concat]
  by_cases hu : r.uid = u
  · subst hu
    rw [if_pos (by rfl), hs]
    simp [hk]
  · rw [if_neg (by simpa [Item.key] using hu)]

/-- A forward declaration of a record that is defined is passed over. -/
theorem skip (h : s.Follows unit seconds done) (hs : standing done (.records, r.uid) = some k)
    (hk : k.isOpaque = false) (hr : r.isOpaque = true) :
    s.Follows unit seconds (done ++ [.record r]) := by
  refine h.concat rfl ?_ ?_ ?_
  · rw [Item.others_concat_record]
    exact h.drafted
  · intro u
    rw [standing_concat_of_defined hs hk]
    exact h.staged u
  · exact fun _ _ _ => .inr hr

/-- A second definition of a record goes to the draft. -/
theorem second (h : s.Follows unit seconds done) (hs : standing done (.records, r.uid) = some k)
    (hk : k.isOpaque = false) (hd : ¬ DefinedOnce (done ++ [.record r])) {d' : Draft}
    (hadd : s.draft.addItem (.record r) = .ok d') :
    Follows { s with draft := d' } unit (seconds ++ [r]) (done ++ [.record r]) := by
  obtain ⟨hunit, hholds⟩ := Draft.holds_of_addItem h.drafted hadd
  constructor
  case unit_eq => exact hunit.trans h.unit_eq
  case drafted =>
    obtain ⟨hnone, -⟩ := Item.filterMap_others done
    rw [Item.others_concat_record]
    constructor
    case records => simp [hholds.records, hnone, Item.record?]
    case enums => simp [hholds.enums, Item.enum?, List.filterMap_cons]
    case functions => simp [hholds.functions, Item.function?, List.filterMap_cons]
    case globals => simp [hholds.globals, Item.global?, List.filterMap_cons]
  case staged =>
    intro u
    rw [standing_concat_of_defined hs hk]
    exact h.staged u
  case second_mem =>
    intro r' hr'
    rcases List.mem_append.1 hr' with hr' | hr'
    · exact List.mem_append_left _ (h.second_mem r' hr')
    · rw [List.mem_singleton.1 hr']
      exact List.mem_append_right _ (List.mem_singleton.2 rfl)
  case definedOnce_iff => exact iff_of_false hd (by simp)

/-- A record waits, is passed over, or shows that a record is defined twice. -/
theorem step_record (h : s.Follows unit seconds done) (r : Record) :
    (∃ s' seconds', s.addItem (.record r) = .ok s' ∧
        s'.Follows unit seconds' (done ++ [.record r])) ∨
      ¬ DefinedOnce (done ++ [.record r]) ∧ ∃ category uid,
        s.addItem (.record r) = .error (.ofFault (.duplicate category uid (some unit))) := by
  have hstaged := h.staged r.uid
  rw [addItem, addRecord]
  -- By what waits under the identifier: nothing, a forward declaration or a definition.
  cases hget : s.records.get? r.uid with
  | none =>
    rw [hget] at hstaged
    exact .inl ⟨_, _, rfl, h.stage fun k hk => by rw [hk] at hstaged; cases hstaged⟩
  | some w =>
    rw [hget] at hstaged
    have hs : standing done (.records, r.uid) = some (.record w) := hstaged.symm
    cases hw : w.isOpaque with
    | true =>
      refine .inl ⟨_, _, if_pos hw, h.stage fun k hk => ?_⟩
      rw [hs] at hk
      cases hk
      exact hw
    | false =>
      simp only [hw, Bool.false_eq_true, if_false]
      cases hr : r.isOpaque with
      | true => exact .inl ⟨_, _, if_pos rfl, h.skip hs hw hr⟩
      | false =>
        simp only [Bool.false_eq_true, if_false]
        have hd : ¬ DefinedOnce (done ++ [.record r]) := not_definedOnce_concat hs hw hr
        cases hadd : s.draft.add r with
        | ok d' => exact .inl ⟨_, _, rfl, h.second hs hw hd hadd⟩
        | error fault =>
          have hfault : s.draft.addItem (.record r) = .error fault := hadd
          obtain ⟨-, rfl⟩ := Draft.addItem_eq_error_iff.1 hfault
          rw [h.unit_eq]
          exact .inr ⟨hd, _, _, rfl⟩

/-- **One step.** A declaration is taken in, or it is a duplicate and an entity is defined twice. -/
theorem step (h : s.Follows unit seconds done) (i : Item) :
    (∃ s' seconds', s.addItem i = .ok s' ∧ s'.Follows unit seconds' (done ++ [i])) ∨
      ¬ DefinedOnce (done ++ [i]) ∧ ∃ category uid,
        s.addItem i = .error (.ofFault (.duplicate category uid (some unit))) := by
  by_cases hi : i.key.1 = .records
  · obtain ⟨r, rfl⟩ := Item.exists_record_of_category hi
    exact h.step_record r
  · refine (h.step_other hi).imp_left ?_
    rintro ⟨s', hadd, h'⟩
    exact ⟨s', seconds, hadd, h'⟩

/-- **A run of steps** takes in all declarations, or it meets a duplicate. -/
theorem run (h : s.Follows unit seconds done) (items : List Item) :
    (∃ s' seconds', items.foldlM addItem s = .ok s' ∧
        s'.Follows unit seconds' (done ++ items)) ∨
      ¬ DefinedOnce (done ++ items) ∧ ∃ category uid,
        items.foldlM addItem s = .error (.ofFault (.duplicate category uid (some unit))) := by
  induction items generalizing s seconds done with
  | nil => exact .inl ⟨s, seconds, rfl, by rwa [List.append_nil]⟩
  | cons i items ih =>
    rw [List.foldlM_cons, List.append_cons]
    rcases h.step i with ⟨s₁, seconds₁, hadd, h₁⟩ | ⟨hd, category, uid, hadd⟩
    · rw [hadd]
      exact ih h₁
    · rw [hadd]
      refine .inr ⟨fun hall => hd ?_, category, uid, rfl⟩
      exact hall.sublist (List.sublist_append_left _ _)

/-! ### The end -/

/-- A record waits under every identifier of a record that is declared. -/
theorem record_mem_staged (h : s.Follows unit seconds done) (hr : .record r ∈ done) :
    ∃ w ∈ s.records.entries, w.uid = r.uid := by
  obtain ⟨k, hk⟩ := exists_standing hr
  have hstaged := h.staged r.uid
  rw [show standing done (.records, r.uid) = some k from hk, Option.map_eq_some_iff] at hstaged
  obtain ⟨w, hw, -⟩ := hstaged
  exact ⟨w, Table.get?_eq_some_iff.1 hw⟩

/-- The records that wait join the draft. -/
theorem addAll_records (h : s.Follows unit [] done) :
    s.draft.addAll s.records.entries = .ok { s.draft with contents := s.collected } := by
  rw [Draft.addAll_eq_foldlM_addItem, Draft.foldlM_addItem_eq_ok_iff h.drafted]
  obtain ⟨hnone, -⟩ := Item.filterMap_others done
  refine ⟨rfl, ?_, ?_, ?_, ?_⟩
  · simp [collected, hnone, List.filterMap_map, Function.comp_def, Item.record?]
  · simp [collected, h.drafted.enums, List.filterMap_map, Function.comp_def, Item.enum?]
  · simp [collected, h.drafted.functions, List.filterMap_map, Function.comp_def, Item.function?]
  · simp [collected, h.drafted.globals, List.filterMap_map, Function.comp_def, Item.global?]

/-- **A record that is defined twice** meets itself in the draft. -/
theorem duplicate_of_second (h : s.Follows unit seconds done) (hs : seconds ≠ []) :
    ∃ category uid,
      s.draft.addAll s.records.entries = .error (.duplicate category uid (some unit)) := by
  rw [Draft.addAll_eq_foldlM_addItem]
  cases hadd : (s.records.entries.map Item.record).foldlM Draft.addItem s.draft with
  | error fault =>
    obtain ⟨category, uid, rfl⟩ := Draft.duplicate_of_foldlM_addItem hadd
    exact ⟨category, uid, by rw [h.unit_eq]⟩
  | ok d =>
    -- The draft would hold the second definition and what waits under the same identifier.
    obtain ⟨r, hr⟩ := List.exists_mem_of_ne_nil _ hs
    obtain ⟨w, hw, huid⟩ := h.record_mem_staged (h.second_mem r hr)
    obtain ⟨-, hholds⟩ := (Draft.foldlM_addItem_eq_ok_iff h.drafted).1 hadd
    have hentries : d.contents.records.entries = seconds ++ s.records.entries := by
      obtain ⟨hnone, -⟩ := Item.filterMap_others done
      simp [hholds.records, hnone, List.filterMap_map, Function.comp_def, Item.record?]
    have hnodup := d.contents.records.nodup
    rw [hentries, List.map_append] at hnodup
    exact absurd (List.mem_map.2 ⟨w, hw, huid⟩)
      (List.disjoint_of_nodup_append hnodup (List.mem_map_of_mem hr))

/-- **What is collected** under an identifier is the declaration that stands for it. -/
theorem item?_collected (h : s.Follows unit [] done) (key : Category × Uid) :
    s.collected.item? key = standing done key := by
  obtain ⟨category, u⟩ := key
  by_cases hcategory : category = .records
  · subst hcategory
    exact h.staged u
  · refine Option.ext fun i => ?_
    have hdraft : s.collected.item? (category, u) = s.draft.contents.item? (category, u) := by
      cases category <;> first | rfl | exact absurd rfl hcategory
    rw [hdraft, Contents.item?_eq_some_iff, h.drafted.mem_items_iff]
    constructor
    · rintro ⟨hi, hkey⟩
      obtain ⟨hmem, hother⟩ := Item.mem_others.1 hi
      have hcomplete : i.isOpaque = false := by
        rw [← Bool.not_eq_true]
        exact fun ho => hother (Item.category_of_isOpaque ho)
      rw [← hkey]
      exact (h.definedOnce_iff.2 rfl).standing_eq hmem hcomplete
    · intro hs
      obtain ⟨hi, hkey⟩ := standing_mem hs
      exact ⟨Item.mem_others.2 ⟨hi, by rwa [hkey]⟩, hkey⟩

end Follows

end Extraction.Staging

end HeaderAbi
