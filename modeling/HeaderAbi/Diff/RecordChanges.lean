import HeaderAbi.Diff.FieldPairing
import HeaderAbi.Diff.Presence

/-!
# Changes of records

`Record.changes` lists what changed between two versions of a record, `RecordChange.toChange` words
it and weighs it.  Anything that moves or retypes data breaks binaries; a new field in free room
does not.
-/

namespace HeaderAbi

/-- One change of a record. -/
inductive RecordChange where
  | template (old new : TemplateOrigin)
  /-- A declaration has become a definition. -/
  | completed
  /-- A definition has become a declaration. -/
  | hidden
  | kind (old new : RecordKind)
  | size (old new : UInt64)
  | alignment (old new : UInt64)
  | bases (old new : List Base)
  | fieldOffset (old new : Field)
  | fieldWidth (old new : Field)
  | fieldType (old new : Field)
  | fieldAccess (old new : Field)
  | fieldRenamed (old new : Field)
  | fieldRemoved (field : Field)
  | fieldAdded (field : Field)
  | vtable (old new : List Slot)
deriving DecidableEq, Inhabited

namespace TemplateOrigin

def spelling : TemplateOrigin → String
  | .plain => "plain"
  | .instantiation template arguments => template ++ "<" ++ ", ".intercalate arguments ++ ">"

end TemplateOrigin

namespace Base

def spelling (b : Base) : String :=
  let virtual := if b.isVirtual then "virtual " else ""
  s!"{virtual}{b.access.word} {b.uid}@{b.offsetBits}"

end Base

namespace RecordChange

def basesSpelling (bases : List Base) : String :=
  "[" ++ ", ".intercalate (bases.map Base.spelling) ++ "]"

def widthSpelling : Option UInt32 → String
  | some w => toString w
  | none => "none"

/-- The slots that differ, each in its words. -/
def slotChanges (index : Nat) : List Slot → List Slot → List String
  | [], [] => []
  | o :: os, [] => s!"slot {index}: {o.spelling} removed" :: slotChanges (index + 1) os []
  | [], n :: ns => s!"slot {index}: {n.spelling} added" :: slotChanges (index + 1) [] ns
  | o :: os, n :: ns =>
    (if o = n then [] else [s!"slot {index}: {arrow o.spelling n.spelling}"]) ++
      slotChanges (index + 1) os ns

/-- A change of a field, under the name that the field has now. -/
def ofField (field : Field) (impact : Impact) (what old new : String) : Change :=
  { impact, part := some field.label, detail := s!"field '{field.label}' {what} {arrow old new}" }

/-- The wording and the weight of a change. -/
def toChange : RecordChange → Change
  | .template o n =>
    ⟨.changed, .informational, none, "template case " ++ arrow o.spelling n.spelling⟩
  | .completed => ⟨.changed, .informational, none, "forward declaration completed"⟩
  | .hidden => ⟨.changed, .informational, none, "definition no longer visible (now opaque)"⟩
  | .kind o n => ⟨.changed, .breaking, none, "kind " ++ arrow o.word n.word⟩
  | .size o n => ⟨.changed, .breaking, none, s!"size {arrow (toString o) (toString n)} bits"⟩
  | .alignment o n =>
    ⟨.changed, .breaking, none, s!"alignment {arrow (toString o) (toString n)} bits"⟩
  | .bases o n =>
    ⟨.changed, .breaking, some "bases",
      "base classes " ++ arrow (basesSpelling o) (basesSpelling n)⟩
  | .fieldOffset o n =>
    ofField n .breaking "offset" (toString o.offsetBits) (toString n.offsetBits)
  | .fieldWidth o n =>
    ofField n .breaking "bit width" (widthSpelling o.bitWidth) (widthSpelling n.bitWidth)
  | .fieldType o n => ofField n .breaking "type" o.type.spelling n.type.spelling
  | .fieldAccess o n => ofField n .informational "access" o.access.word n.access.word
  | .fieldRenamed o n =>
    ⟨.changed, .nonBreaking, some n.label, "field renamed " ++ arrow o.label n.label⟩
  | .fieldRemoved f =>
    ⟨.removed, .breaking, some f.label, s!"field '{f.label}' at offset {f.offsetBits} removed"⟩
  | .fieldAdded f =>
    ⟨.added, .nonBreaking, some f.label,
      s!"field '{f.label}' of type {f.type.spelling} added at offset {f.offsetBits}"⟩
  | .vtable o n =>
    let slots := arrow (toString o.length) (toString n.length)
    ⟨.changed, .breaking, some "vtable",
      s!"vtable layout changed ({slots} slots): " ++ "; ".intercalate (slotChanges 0 o n)⟩

/-- A change, if a condition holds. -/
def when (condition : Prop) [Decidable condition] (change : RecordChange) : List RecordChange :=
  if condition then [change] else []

/-- The changes between two versions of a field. -/
def ofFields (old new : Field) : List RecordChange :=
  when (old.offsetBits ≠ new.offsetBits) (.fieldOffset old new) ++
    when (old.bitWidth ≠ new.bitWidth) (.fieldWidth old new) ++
    when (old.type ≠ new.type) (.fieldType old new) ++
    when (old.access ≠ new.access) (.fieldAccess old new)

/-- The changes between two lists of fields. -/
def ofFieldLists (old new : List Field) : List RecordChange :=
  let pairing := FieldPairing.ofFields old new
  let (renamed, removed, added) := pairing.renamings
  pairing.matched.flatMap (fun (o, n) => ofFields o.field n.field) ++
    renamed.map (fun (o, n) => .fieldRenamed o.field n.field) ++
    removed.map (fun o => .fieldRemoved o.field) ++ added.map (fun n => .fieldAdded n.field)

end RecordChange

namespace Record

open RecordChange in
/-- The changes between the layouts of two complete records. -/
def layoutChanges (old new : Record) : List RecordChange :=
  when (old.kind ≠ new.kind) (.kind old.kind new.kind) ++
    when (old.sizeBits ≠ new.sizeBits) (.size old.sizeBits new.sizeBits) ++
    when (old.alignBits ≠ new.alignBits) (.alignment old.alignBits new.alignBits) ++
    when (old.bases ≠ new.bases) (.bases old.bases new.bases) ++
    ofFieldLists old.fields new.fields ++
    when (old.vtable ≠ new.vtable) (.vtable old.vtable new.vtable)

open RecordChange in
/-- The changes between two versions of a record.  Layouts are compared only when both are known. -/
def changes (old new : Record) : List RecordChange :=
  when (old.template ≠ new.template) (.template old.template new.template) ++
    match old.isOpaque, new.isOpaque with
    | true, true => []
    | true, false => [.completed]
    | false, true => [.hidden]
    | false, false => layoutChanges old new

end Record

end HeaderAbi
