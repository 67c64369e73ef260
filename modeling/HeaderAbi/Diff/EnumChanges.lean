import HeaderAbi.Diff.Presence

/-!
# Changes of enumerations

Enumerators are compared by name.  A new name for a number that was there before is only worth
knowing.
-/

namespace HeaderAbi

/-- One change of an enumeration. -/
inductive EnumChange where
  | underlying (old new : TypeRef)
  | enumeratorValue (old new : Enumerator)
  | enumeratorRemoved (enumerator : Enumerator)
  | enumeratorAdded (enumerator : Enumerator)
  /-- A new name for a number that an old enumerator stands for. -/
  | aliasAdded (enumerator : Enumerator)
deriving DecidableEq, Inhabited

namespace EnumChange

/-- The wording and the weight of a change. -/
def toChange : EnumChange → Change
  | .underlying o n =>
    ⟨.changed, .breaking, none, "underlying type " ++ arrow o.spelling n.spelling⟩
  | .enumeratorValue o n =>
    ⟨.changed, .breaking, some o.name,
      s!"enumerator '{o.name}' value {arrow o.value.spelling n.value.spelling}"⟩
  | .enumeratorRemoved e =>
    ⟨.removed, .breaking, some e.name, s!"enumerator '{e.name}' = {e.value.spelling} removed"⟩
  | .enumeratorAdded e =>
    ⟨.added, .nonBreaking, some e.name, s!"enumerator '{e.name}' = {e.value.spelling} added"⟩
  | .aliasAdded e =>
    ⟨.added, .informational, some e.name,
      s!"enumerator '{e.name}' = {e.value.spelling} added as an alias of an existing value"⟩

end EnumChange

namespace EnumType

/-- What became of an old enumerator. -/
def enumeratorChanges (new : EnumType) (e : Enumerator) : List EnumChange :=
  match new.enumerator? e.name with
  | none => [.enumeratorRemoved e]
  | some n => if n.value.toInt = e.value.toInt then [] else [.enumeratorValue e n]

/-- The changes between two versions of an enumeration. -/
def changes (old new : EnumType) : List EnumChange :=
  (if old.underlying ≠ new.underlying then [.underlying old.underlying new.underlying] else []) ++
    old.enumerators.flatMap new.enumeratorChanges ++
    (new.enumerators.filter fun e => (old.enumerator? e.name).isNone).map fun e =>
      if old.hasValue e.value then .aliasAdded e else .enumeratorAdded e

end EnumType

end HeaderAbi
