import HeaderAbi.Proofs.Extraction.Staging

/-!
# The outcome of extraction

Staging collects what stands of the declarations of a unit (`Contents.Stands`), unless an entity is
defined twice (`Facts.extractAs_cases`).  What is collected can still fail the check, for a use of a
type that is not there or for a layout, and otherwise it is the snapshot of the unit: nothing that
was declared is lost, and nothing else is there (`Snapshot.Extracts`).
-/

namespace HeaderAbi

/-- A use of a type that is not there, or a layout that does not hold together. -/
def Fault.IsInvalidity (fault : Fault) : Prop :=
  (∃ category referrer target, fault = .unresolved category referrer target) ∨
    ∃ uid reason, fault = .layout uid reason

theorem Fault.not_isInvalidity_duplicate {category : Category} {uid : String}
    {unit : Option String} : ¬ (Fault.duplicate category uid unit).IsInvalidity := by
  rintro (⟨_, _, _, ⟨⟩⟩ | ⟨_, _, ⟨⟩⟩)

/-- **The check finds nothing else.** -/
theorem Contents.isInvalidity_of_mem_faults {c : Contents} {fault : Fault}
    (h : fault ∈ c.faults) : fault.IsInvalidity := by
  have hreferences : ∀ {α : Type} [Stored α], fault ∈ c.referenceFaults (α := α) →
      fault.IsInvalidity := by
    intro α _ h
    obtain ⟨a, -, h⟩ := List.mem_flatMap.1 h
    obtain ⟨t, -, h⟩ := List.mem_filterMap.1 h
    split at h
    · cases h
    · cases h
      exact .inl ⟨_, _, _, rfl⟩
  simp only [faults, List.mem_append] at h
  rcases h with (((((h | h) | h) | h) | h) | h) | h
  iterate 4 exact hreferences h
  · obtain ⟨r, -, h⟩ := List.mem_flatMap.1 h
    split at h
    · cases h
    · obtain ⟨b, -, h⟩ := List.mem_filterMap.1 h
      split at h
      · cases h
      · cases h
        exact .inl ⟨_, _, _, rfl⟩
  · obtain ⟨f, -, h⟩ := List.mem_flatMap.1 h
    split at h
    · cases h
    · split at h
      · cases h
      · rw [List.mem_singleton.1 h]
        exact .inl ⟨_, _, _, rfl⟩
  · exact .inr (exists_layout_of_mem h)

/-- The name under which a unit is extracted: its own, or that of its source. -/
def Facts.unitName (facts : Facts) (source : String) : String :=
  if facts.unit.isEmpty then source else facts.unit

/-- The entities that the declarations of a unit stand for, one for each. -/
def Facts.Declares (facts : Facts) (unit : String) (items : List Item) : Prop :=
  List.Forall₂ (fun d i => d.toItem unit = .ok i) facts.declarations items

/-- Contents hold what stands of some declarations. -/
structure Contents.Stands (c : Contents) (items : List Item) : Prop where
  item?_eq : ∀ key, c.item? key = standing items key
  enums : c.enums.entries = items.filterMap Item.enum?
  functions : c.functions.entries = items.filterMap Item.function?
  globals : c.globals.entries = items.filterMap Item.global?

namespace Contents.Stands

variable {c : Contents} {items : List Item} {i : Item}

theorem mem_items_iff (h : c.Stands items) : i ∈ c.items ↔ standing items i.key = some i := by
  rw [Contents.mem_items_iff, h.item?_eq]

theorem mem_of_mem_items (h : c.Stands items) (hi : i ∈ c.items) : i ∈ items :=
  (standing_mem (h.mem_items_iff.1 hi)).1

/-- The identifiers are those of the declarations. -/
theorem has_iff (h : c.Stands items) {key : Category × Uid} :
    c.Has key ↔ ∃ i ∈ items, i.key = key := by
  constructor
  · rintro ⟨i, hi, hkey⟩
    exact ⟨i, h.mem_of_mem_items hi, hkey⟩
  · rintro ⟨i, hi, rfl⟩
    obtain ⟨k, hk⟩ := exists_standing hi
    have hkey : k.key = i.key := (standing_mem hk).2
    exact ⟨k, h.mem_items_iff.2 (by rw [hkey, hk]), hkey⟩

/-- **A definition stands** where nothing is defined twice. -/
theorem mem_items_of_complete (h : c.Stands items) (hd : DefinedOnce items) (hi : i ∈ items)
    (hc : i.isOpaque = false) : i ∈ c.items :=
  h.mem_items_iff.2 (hd.standing_eq hi hc)

end Contents.Stands

/-- A snapshot is what a unit declares. -/
structure Snapshot.Extracts (s : Snapshot) (items : List Item) : Prop where
  /-- There is one enumeration, function and global for each that is declared. -/
  enums : s.enums.entries = items.filterMap Item.enum?
  functions : s.functions.entries = items.filterMap Item.function?
  globals : s.globals.entries = items.filterMap Item.global?
  /-- The identifiers of the records are those of the records that are declared. -/
  record_uid_iff : ∀ u, (∃ r ∈ s.records.entries, r.uid = u) ↔
    ∃ r, .record r ∈ items ∧ r.uid = u
  /-- Every record is one that is declared. -/
  declared : ∀ r ∈ s.records.entries, .record r ∈ items
  /-- A record is complete exactly when it is defined, -/
  complete_iff : ∀ r ∈ s.records.entries, r.isOpaque = false ↔
    ∃ d, .record d ∈ items ∧ d.uid = r.uid ∧ d.isOpaque = false
  /-- and then it is as it is defined. -/
  defined : ∀ r, .record r ∈ items → r.isOpaque = false → r ∈ s.records.entries

/-- What stands of declarations is what they declare. -/
theorem Contents.Stands.extracts {s : Snapshot} {items : List Item}
    (h : s.contents.Stands items) (hd : DefinedOnce items) : s.Extracts items := by
  have hdefined : ∀ r, .record r ∈ items → r.isOpaque = false → r ∈ s.records.entries :=
    fun r hr hc => Contents.record_mem_items.1 (h.mem_items_of_complete hd hr hc)
  have hdeclared : ∀ r ∈ s.records.entries, .record r ∈ items :=
    fun r hr => h.mem_of_mem_items (Contents.record_mem_items.2 hr)
  constructor
  case enums => exact h.enums
  case functions => exact h.functions
  case globals => exact h.globals
  case declared => exact hdeclared
  case defined => exact hdefined
  case record_uid_iff =>
    intro u
    rw [Snapshot.records, ← Contents.has_records_iff, h.has_iff]
    constructor
    · rintro ⟨i, hi, hkey⟩
      obtain ⟨r, rfl⟩ := Item.exists_record_of_category (congrArg Prod.fst hkey)
      exact ⟨r, hi, congrArg Prod.snd hkey⟩
    · rintro ⟨r, hr, rfl⟩
      exact ⟨.record r, hr, rfl⟩
  case complete_iff =>
    intro r hr
    constructor
    · intro hc
      exact ⟨r, hdeclared r hr, rfl, hc⟩
    · rintro ⟨d, hmem, huid, hc⟩
      rw [← Table.eq_of_uid_eq (hdefined d hmem hc) hr huid]
      exact hc

namespace Facts

open Extraction

variable {facts : Facts} {unit : String} {items : List Item}

/-- Declarations that can all be mapped stand for entities. -/
theorem exists_declares (h : ∀ d ∈ facts.declarations, ∀ name reason,
    d.toItem unit ≠ .error (.declaration unit name reason)) :
    ∃ items, facts.Declares unit items := by
  unfold Declares
  generalize facts.declarations = ds at h
  induction ds with
  | nil => exact ⟨[], .nil⟩
  | cons d ds ih =>
    obtain ⟨i, hi⟩ := Declaration.exists_toItem (h d List.mem_cons_self)
    obtain ⟨items, hitems⟩ := ih fun d' hd' => h d' (List.mem_cons_of_mem d hd')
    exact ⟨i :: items, .cons hi hitems⟩

theorem extract_eq_extractAs (facts : Facts) (source : String) :
    facts.extract source = facts.extractAs (facts.unitName source) :=
  rfl

/-- A snapshot that is finished, or the fault that keeps it from being one, seen from the unit. -/
def finish (unit : String) (c : Contents) : Except Error Snapshot :=
  (lift (Snapshot.ofContents c)).mapError (Error.within ("extracting unit " ++ unit))

/-- After the run of the declarations, the records that wait join the draft, and it is finished. -/
theorem extractAs_of_run {s : Staging} (h : facts.declarations.foldlM (Staging.add unit)
    { draft := { unit := some unit } } = .ok s) : facts.extractAs unit =
      lift (s.draft.addAll s.records.entries) >>= fun draft => finish unit draft.contents := by
  rw [extractAs, h]
  rfl

/-- **Extraction collects what stands**, or finds an entity that is defined twice. -/
theorem extractAs_cases (h : facts.Declares unit items) :
    (DefinedOnce items ∧ ∃ c, c.Stands items ∧ facts.extractAs unit = finish unit c) ∨
      ¬ DefinedOnce items ∧ ∃ category uid,
        facts.extractAs unit = .error (.ofFault (.duplicate category uid (some unit))) := by
  rcases (Staging.follows_start unit).run items with ⟨s, seconds, hrun, hs⟩ | ⟨hd, c, u, hrun⟩
  · rw [← Staging.foldlM_add h] at hrun
    rw [List.nil_append] at hs
    rw [extractAs_of_run hrun]
    -- A second definition shows only now, when the records join the draft.
    by_cases hd : DefinedOnce items
    · obtain rfl := hs.definedOnce_iff.1 hd
      obtain ⟨-, henums, hfunctions, hglobals⟩ := Item.filterMap_others items
      refine .inl ⟨hd, s.collected, ⟨hs.item?_collected, ?_, ?_, ?_⟩, ?_⟩
      · exact hs.drafted.enums.trans henums
      · exact hs.drafted.functions.trans hfunctions
      · exact hs.drafted.globals.trans hglobals
      · rw [hs.addAll_records]
        rfl
    · have hne : seconds ≠ [] := fun hnil => hd (hs.definedOnce_iff.2 hnil)
      obtain ⟨category, uid, hadd⟩ := hs.duplicate_of_second hne
      refine .inr ⟨hd, category, uid, ?_⟩
      rw [hadd]
      rfl
  · rw [← Staging.foldlM_add h] at hrun
    rw [List.nil_append] at hd
    refine .inr ⟨hd, c, u, ?_⟩
    rw [extractAs, hrun]
    rfl

/-- What is finished is a snapshot unless the check finds a fault. -/
theorem finish_cases (unit : String) (c : Contents) :
    (∃ s : Snapshot, s.contents = c ∧ finish unit c = .ok s) ∨
      ∃ fault : Fault, fault.IsInvalidity ∧
        finish unit c = .error ((Error.ofFault fault).within ("extracting unit " ++ unit)) := by
  rw [finish]
  cases hc : Snapshot.ofContents c with
  | ok s => exact .inl ⟨s, Snapshot.ofContents_eq_ok_iff.1 hc, rfl⟩
  | error fault =>
    have hfault := Contents.isInvalidity_of_mem_faults (Contents.mem_faults_of_ofContents hc)
    exact .inr ⟨fault, hfault, rfl⟩

/-- **Extraction neither loses nor invents declarations.**  Let every declaration of a unit stand
for an entity.  Extraction fails for a duplicate of the unit exactly when an entity is defined
twice.  Otherwise it fails the check only, or it makes the snapshot of what is declared, wherever
and however often records are declared ahead. -/
theorem extract_outcome (facts : Facts) (source : String)
    (h : ∀ d ∈ facts.declarations, ∀ name reason,
      d.toItem (facts.unitName source) ≠
        .error (.declaration (facts.unitName source) name reason)) :
    ∃ items, List.Forall₂ (fun d i => d.toItem (facts.unitName source) = .ok i ∧
        i.isOpaque = d.isForward) facts.declarations items ∧
      ((∃ category uid, facts.extract source =
          .error (.ofFault (.duplicate category uid (some (facts.unitName source))))) ↔
        ¬ DefinedOnce items) ∧
      (DefinedOnce items →
        (∃ fault : Fault, fault.IsInvalidity ∧ facts.extract source = .error
          ((Error.ofFault fault).within ("extracting unit " ++ facts.unitName source))) ∨
        ∃ s, facts.extract source = .ok s ∧ s.Extracts items) := by
  obtain ⟨items, hitems⟩ := exists_declares h
  refine ⟨items, hitems.imp fun d i hi => ⟨hi, d.isOpaque_of_toItem hi⟩, ?_⟩
  rw [extract_eq_extractAs]
  rcases extractAs_cases hitems with ⟨hd, c, hc, hextract⟩ | ⟨hd, category, uid, hextract⟩
  · rw [hextract]
    rcases finish_cases (facts.unitName source) c with ⟨s, rfl, hs⟩ | ⟨fault, hfault, hs⟩
    · rw [hs]
      exact ⟨iff_of_false nofun (not_not.2 hd), fun _ => .inr ⟨s, rfl, hc.extracts hd⟩⟩
    · rw [hs]
      refine ⟨iff_of_false ?_ (not_not.2 hd), fun _ => .inl ⟨fault, hfault, rfl⟩⟩
      rintro ⟨category, uid, herror⟩
      simp only [Error.ofFault, Error.within, Except.error.injEq, Error.model.injEq] at herror
      rw [herror.2] at hfault
      exact Fault.not_isInvalidity_duplicate hfault
  · rw [hextract]
    exact ⟨iff_of_true ⟨category, uid, rfl⟩ hd, fun hnot => absurd hnot hd⟩

-- The second definition goes to the draft at once; the first one meets it there in the end.
example : Facts.extract {
    unit := "a.h"
    declarations := [
      .record { name := "Node", layout := some { sizeBits := 32, alignBits := 32 } },
      .record { name := "Node" },
      .record { name := "Node", layout := some { sizeBits := 64, alignBits := 32 } }] } "a.json" =
    .error (.ofFault (.duplicate .records "Node" (some "a.h"))) := by
  rfl

/-- A record that is declared ahead, defined and declared ahead again, and a function that takes
it. -/
def linkedList : Facts where
  unit := ""
  declarations := [
    .record { name := "Node" },
    .record {
      name := " Node ", layout := some {
        sizeBits := 64, alignBits := 64
        fields := [{
          name := "next", type := (TypeFact.ofName "Node").pointer, offsetBits := 0 }] } },
    .record { name := "Node", kind := .classType },
    .function {
      name := "length", result := .ofName "int"
      parameters := [(TypeFact.ofName "Node").pointer] }]

theorem extract_outcome_linkedList :
    (∀ d ∈ linkedList.declarations, ∀ name reason,
      d.toItem (linkedList.unitName "list.h") ≠
        .error (.declaration (linkedList.unitName "list.h") name reason)) ∧
    ∃ items s, List.Forall₂ (fun d i => d.toItem (linkedList.unitName "list.h") = .ok i ∧
        i.isOpaque = d.isForward) linkedList.declarations items ∧
      DefinedOnce items ∧ linkedList.extract "list.h" = .ok s ∧ s.Extracts items := by
  have hmapped : ∀ d ∈ linkedList.declarations, ∀ name reason,
      d.toItem (linkedList.unitName "list.h") ≠
        .error (.declaration (linkedList.unitName "list.h") name reason) := by
    simp only [linkedList, List.forall_mem_cons]
    exact ⟨nofun, nofun, nofun, nofun, nofun⟩
  obtain ⟨s, hs⟩ : ∃ s, linkedList.extract "list.h" = .ok s := ⟨_, rfl⟩
  obtain ⟨items, hitems, hduplicate, hcases⟩ := extract_outcome linkedList "list.h" hmapped
  rw [hs] at hduplicate hcases
  have hd : DefinedOnce items := not_not.1 fun hd => by
    obtain ⟨_, _, herror⟩ := hduplicate.2 hd
    cases herror
  refine ⟨hmapped, items, s, hitems, hd, hs, ?_⟩
  rcases hcases hd with ⟨_, _, herror⟩ | ⟨t, ht, hextracts⟩
  · cases herror
  · cases ht
    exact hextracts

end Facts

end HeaderAbi
