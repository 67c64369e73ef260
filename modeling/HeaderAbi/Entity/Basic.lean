import HeaderAbi.Category
import HeaderAbi.Entity.EnumType
import HeaderAbi.Entity.Function
import HeaderAbi.Entity.Record

/-!
# Entities

What the four kinds of entity have in common: a category, an identifier, a name, possibly a linkage,
the uses of types that must resolve, and a form in dumps.
-/

namespace HeaderAbi

/-- A kind of entity that snapshots hold. -/
class Entity (α : Type) where
  category : Category
  uid : α → Uid
  name : α → String
  /-- Functions and variables have a linkage; records and enumerations have none. -/
  linkage? : α → Option Linkage
  /-- Declared only, so that a definition may take its place. -/
  isOpaque : α → Bool
  /-- The uses of types that a snapshot must resolve. -/
  references : α → List TypeRef
  toData : α → Data

namespace Entity

variable {α : Type} [Entity α]

/-- Records and enumerations are always visible to other binaries, functions and variables by
linkage. -/
def isVisible (a : α) : Bool :=
  match linkage? a with
  | none => true
  | some l => l.isVisible

end Entity

instance : Entity Record where
  category := .records
  uid := Record.uid
  name := Record.name
  linkage? _ := none
  isOpaque := Record.isOpaque
  references r := if r.isOpaque then [] else r.fields.map Field.type
  toData := Record.toData

instance : Entity EnumType where
  category := .enums
  uid := EnumType.uid
  name := EnumType.name
  linkage? _ := none
  isOpaque _ := false
  references e := [e.underlying]
  toData := EnumType.toData

instance : Entity Function where
  category := .functions
  uid := Function.uid
  name := Function.name
  linkage? f := some f.linkage
  isOpaque _ := false
  references := Function.types
  toData := Function.toData

instance : Entity GlobalVar where
  category := .globals
  uid := GlobalVar.uid
  name := GlobalVar.name
  linkage? g := some g.linkage
  isOpaque _ := false
  references g := [g.type]
  toData := GlobalVar.toData

end HeaderAbi
