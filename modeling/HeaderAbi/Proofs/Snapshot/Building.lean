import HeaderAbi.Proofs.Snapshot.Validity
import HeaderAbi.Snapshot.Draft

/-!
# Building snapshots

Entities of all categories, added one by one in any order, become a snapshot exactly when no two of
one category share an identifier and together they are valid (`ofItems_eq_ok_iff`).

* One step: adding an entity to a draft succeeds exactly when the entities stay distinct, and the
  draft then holds the entity behind the others (`addItem_eq_ok_iff`).
* A run of steps follows by induction (`foldlM_addItem_eq_ok_iff`).

The lists of a document are such a run (`Document.rebuild_eq_ofItems`).
-/

namespace HeaderAbi

/-- An entity of any category. -/
inductive Item where
  | record (r : Record)
  | enum (e : EnumType)
  | function (f : Function)
  | global (g : GlobalVar)

namespace Item

def record? : Item → Option Record
  | .record r => some r
  | _ => none

def enum? : Item → Option EnumType
  | .enum e => some e
  | _ => none

def function? : Item → Option Function
  | .function f => some f
  | _ => none

def global? : Item → Option GlobalVar
  | .global g => some g
  | _ => none

/-- No two entities of one category share an identifier. -/
structure Distinct (items : List Item) : Prop where
  records : ((items.filterMap record?).map Entity.uid).Nodup
  enums : ((items.filterMap enum?).map Entity.uid).Nodup
  functions : ((items.filterMap function?).map Entity.uid).Nodup
  globals : ((items.filterMap global?).map Entity.uid).Nodup

/-- Distinct entities by category, each in the order of the list. -/
def contents (items : List Item) (h : Distinct items) : Contents where
  records := ⟨items.filterMap record?, h.records⟩
  enums := ⟨items.filterMap enum?, h.enums⟩
  functions := ⟨items.filterMap function?, h.functions⟩
  globals := ⟨items.filterMap global?, h.globals⟩

end Item

/-- The contents hold the entities of a list, each category in the order of the list. -/
structure Contents.Holds (c : Contents) (items : List Item) : Prop where
  records : c.records.entries = items.filterMap Item.record?
  enums : c.enums.entries = items.filterMap Item.enum?
  functions : c.functions.entries = items.filterMap Item.function?
  globals : c.globals.entries = items.filterMap Item.global?

theorem Item.contents_holds (items : List Item) (h : Distinct items) :
    (contents items h).Holds items :=
  ⟨rfl, rfl, rfl, rfl⟩

namespace Contents.Holds

variable {c d : Contents} {items more : List Item}

theorem eq_contents (h : c.Holds items) : ∃ hd, c = Item.contents items hd := by
  obtain ⟨⟨rs, hr⟩, ⟨es, he⟩, ⟨fs, hf⟩, ⟨gs, hg⟩⟩ := c
  obtain ⟨rfl, rfl, rfl, rfl⟩ := h
  exact ⟨⟨hr, he, hf, hg⟩, rfl⟩

theorem unique (hc : c.Holds items) (hd : d.Holds items) : c = d := by
  obtain ⟨_, rfl⟩ := hc.eq_contents
  obtain ⟨_, rfl⟩ := hd.eq_contents
  rfl

/-- What comes first is distinct by itself. -/
theorem exists_of_append (h : c.Holds (items ++ more)) : ∃ d : Contents, d.Holds items := by
  obtain ⟨⟨hr, he, hf, hg⟩, rfl⟩ := h.eq_contents
  simp only [List.filterMap_append, List.map_append] at hr he hf hg
  exact ⟨_, Item.contents_holds items
    ⟨hr.of_append_left, he.of_append_left, hf.of_append_left, hg.of_append_left⟩⟩

end Contents.Holds

theorem Except.bind_eq_ok_iff {ε α β : Type} {x : Except ε α} {f : α → Except ε β} {b : β} :
    x >>= f = .ok b ↔ ∃ a, x = .ok a ∧ f a = .ok b := by
  cases x with
  | error e => simp [bind, Except.bind]
  | ok a => simp [bind, Except.bind]

/-! ### One step -/

namespace Table

variable {α : Type} [Entity α]

/-- An entity is added exactly when its identifier is free, and it comes last. -/
theorem insert?_eq_some_iff {t t' : Table α} {a : α} :
    t.insert? a = some t' ↔ t'.entries = t.entries ++ [a] := by
  rw [insert?]
  split
  · next h =>
    refine iff_of_false (by simp) fun he => ?_
    have hnodup := t'.nodup
    rw [he, List.map_append, List.map_singleton] at hnodup
    exact List.disjoint_of_nodup_append hnodup (contains_iff.1 h) (List.mem_singleton.2 rfl)
  · constructor
    · rintro ⟨⟩
      rfl
    · intro he
      cases t'
      simpa [insert] using he.symm

end Table

namespace Draft

/-- Add an entity of any category. -/
def addItem (d : Draft) : Item → Except Fault Draft
  | .record r => d.add r
  | .enum e => d.add e
  | .function f => d.add f
  | .global g => d.add g

theorem add_eq_ok_iff {α : Type} [Stored α] {d d' : Draft} {a : α} :
    d.add a = .ok d' ↔ ∃ t : Table α, t.entries = (Stored.table d.contents).entries ++ [a] ∧
      { d with contents := Stored.setTable d.contents t } = d' := by
  simp only [← Table.insert?_eq_some_iff, add]
  cases hi : (Stored.table d.contents : Table α).insert? a with
  | none => simp
  | some t => simp

theorem holds_of_addItem {d d' : Draft} {items : List Item} {i : Item}
    (h : d.contents.Holds items) (hadd : d.addItem i = .ok d') :
    d'.unit = d.unit ∧ d'.contents.Holds (items ++ [i]) := by
  cases i <;> obtain ⟨t, ht, rfl⟩ := add_eq_ok_iff.1 hadd <;>
    refine ⟨rfl, ⟨?_, ?_, ?_, ?_⟩⟩ <;>
    simp_all [Stored.table, Stored.setTable, h.records, h.enums, h.functions, h.globals,
      Item.record?, Item.enum?, Item.function?, Item.global?]

theorem exists_addItem {d : Draft} {c : Contents} {items : List Item} {i : Item}
    (h : d.contents.Holds items) (hc : c.Holds (items ++ [i])) : ∃ d', d.addItem i = .ok d' := by
  cases i
  case record r =>
    have hinsert : c.records.entries = d.contents.records.entries ++ [r] := by
      simp [hc.records, Item.record?, h.records]
    exact ⟨_, add_eq_ok_iff.2 ⟨c.records, hinsert, rfl⟩⟩
  case enum e =>
    have hinsert : c.enums.entries = d.contents.enums.entries ++ [e] := by
      simp [hc.enums, Item.enum?, h.enums]
    exact ⟨_, add_eq_ok_iff.2 ⟨c.enums, hinsert, rfl⟩⟩
  case function f =>
    have hinsert : c.functions.entries = d.contents.functions.entries ++ [f] := by
      simp [hc.functions, Item.function?, h.functions]
    exact ⟨_, add_eq_ok_iff.2 ⟨c.functions, hinsert, rfl⟩⟩
  case global g =>
    have hinsert : c.globals.entries = d.contents.globals.entries ++ [g] := by
      simp [hc.globals, Item.global?, h.globals]
    exact ⟨_, add_eq_ok_iff.2 ⟨c.globals, hinsert, rfl⟩⟩

/-- **One step.** A draft takes in an entity exactly when some contents hold it behind the others,
and these become the contents of the draft. -/
theorem addItem_eq_ok_iff {d d' : Draft} {items : List Item} {i : Item}
    (h : d.contents.Holds items) :
    d.addItem i = .ok d' ↔ d'.unit = d.unit ∧ d'.contents.Holds (items ++ [i]) := by
  refine ⟨holds_of_addItem h, ?_⟩
  rintro ⟨hu, h'⟩
  obtain ⟨d'', hadd⟩ := exists_addItem h h'
  obtain ⟨hu'', h''⟩ := holds_of_addItem h hadd
  rw [hadd]
  cases d'; cases d''
  cases hu.trans hu''.symm
  cases h'.unique h''
  rfl

/-- **A run of steps.** -/
theorem foldlM_addItem_eq_ok_iff {d d' : Draft} {items more : List Item}
    (h : d.contents.Holds items) :
    more.foldlM addItem d = .ok d' ↔ d'.unit = d.unit ∧ d'.contents.Holds (items ++ more) := by
  induction more generalizing d items with
  | nil =>
    rw [List.foldlM_nil, List.append_nil]
    constructor
    · rintro ⟨⟩
      exact ⟨rfl, h⟩
    · rintro ⟨hu, h'⟩
      cases d; cases d'
      cases hu
      cases h.unique h'
      rfl
  | cons i more ih =>
    rw [List.foldlM_cons, Except.bind_eq_ok_iff, List.append_cons]
    constructor
    · rintro ⟨d₁, hadd, hrest⟩
      obtain ⟨hu, h₁⟩ := (addItem_eq_ok_iff h).1 hadd
      obtain ⟨hu', h'⟩ := (ih h₁).1 hrest
      exact ⟨hu'.trans hu, h'⟩
    · rintro ⟨hu, h'⟩
      obtain ⟨c₁, hc₁⟩ := h'.exists_of_append
      have hadd : d.addItem i = .ok ⟨d.unit, c₁⟩ := (addItem_eq_ok_iff h).2 ⟨rfl, hc₁⟩
      have hrest := (ih (d := ⟨d.unit, c₁⟩) hc₁).2 ⟨hu, h'⟩
      exact ⟨⟨d.unit, c₁⟩, hadd, hrest⟩

/-- Add entities in order and finish the draft. -/
def ofItems (unit : Option String) (items : List Item) : Except Fault Snapshot := do
  let draft ← items.foldlM addItem { unit }
  draft.build

/-- The snapshot holds exactly the entities that were added. -/
theorem ofItems_eq_ok_iff {unit : Option String} {items : List Item} {s : Snapshot} :
    ofItems unit items = .ok s ↔ s.contents.Holds items := by
  have hempty : Contents.empty.Holds [] := ⟨rfl, rfl, rfl, rfl⟩
  rw [ofItems, Except.bind_eq_ok_iff]
  simp only [build, Snapshot.ofContents_eq_ok_iff,
    foldlM_addItem_eq_ok_iff (d := { unit }) hempty, List.nil_append]
  constructor
  · rintro ⟨d, ⟨_, hd⟩, hs⟩
    exact hs ▸ hd
  · intro h
    exact ⟨⟨unit, s.contents⟩, ⟨rfl, h⟩, rfl⟩

/-- **Entities become a snapshot exactly when they are distinct and valid.**  The snapshot then
holds these and no others; and however a snapshot came about, it is valid. -/
theorem ofItems_isOk_iff_valid (unit : Option String) (items : List Item) :
    ((∃ s, ofItems unit items = .ok s) ↔
        ∃ h : Item.Distinct items, (Item.contents items h).Valid) ∧
      (∀ s, ofItems unit items = .ok s → ∃ h, s.contents = Item.contents items h) ∧
        ∀ s : Snapshot, s.contents.Valid := by
  refine ⟨?_, fun s hs => (ofItems_eq_ok_iff.1 hs).eq_contents, Snapshot.valid⟩
  constructor
  · rintro ⟨s, hs⟩
    obtain ⟨h, hc⟩ := (ofItems_eq_ok_iff.1 hs).eq_contents
    exact ⟨h, hc ▸ s.valid⟩
  · rintro ⟨h, hv⟩
    exact ⟨⟨Item.contents items h, Contents.faults_eq_nil_iff.2 hv⟩,
      ofItems_eq_ok_iff.2 (Item.contents_holds items h)⟩

end Draft

end HeaderAbi
