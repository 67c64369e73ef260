import HeaderAbi.TypeRef.Form

/-!
# Enumerations

An enumerator's value keeps the signedness under which it was reported; two values are compared by
the number they stand for.
-/

namespace HeaderAbi

/-- The value of an enumerator. -/
inductive EnumeratorValue where
  | signed (value : Int64)
  | unsigned (value : UInt64)
deriving DecidableEq, Inhabited

namespace EnumeratorValue

/-- The number, whatever its signedness. -/
def toInt : EnumeratorValue → Int
  | .signed v => v.toInt
  | .unsigned v => Int.ofNat v.toNat

def spelling (v : EnumeratorValue) : String := toString v.toInt

def toData : EnumeratorValue → Data
  | .signed v => .tagged "signed" (.int v.toInt)
  | .unsigned v => .tagged "unsigned" (.int v.toNat)

def ofData? (d : Data) : Option EnumeratorValue :=
  match d.variant? with
  | some ("signed", some content) => content.asInt64?.map .signed
  | some ("unsigned", some content) => content.asUInt64?.map .unsigned
  | _ => none

end EnumeratorValue

structure Enumerator where
  name : String
  value : EnumeratorValue
deriving DecidableEq, Inhabited

/-- An enumeration with its underlying integer type. -/
structure EnumType where
  uid : Uid
  name : String
  underlying : TypeRef
  enumerators : List Enumerator := []
deriving DecidableEq, Inhabited

namespace EnumType

/-- An enumeration over `int` without enumerators. -/
def ofName (name : String) : EnumType :=
  { uid := .ofName name, name, underlying := .ofName "int" }

def addEnumerator (e : EnumType) (name : String) (value : EnumeratorValue) : EnumType :=
  { e with enumerators := e.enumerators ++ [⟨name, value⟩] }

/-- The first enumerator of a name. -/
def enumerator? (e : EnumType) (name : String) : Option Enumerator :=
  e.enumerators.find? (·.name == name)

/-- Some enumerator stands for that number. -/
def hasValue (e : EnumType) (value : EnumeratorValue) : Bool :=
  e.enumerators.any (·.value.toInt == value.toInt)

end EnumType

/-! ## Enumerations in dumps -/

namespace Enumerator

def toData (e : Enumerator) : Data :=
  .object [("name", .text e.name), ("value", e.value.toData)]

def ofData? (d : Data) : Option Enumerator := do
  let fs ← d.fieldsOf? ["name", "value"]
  return {
    name := ← Data.required fs "name" Data.asText?
    value := ← Data.required fs "value" EnumeratorValue.ofData? }

end Enumerator

namespace EnumType

def toData (e : EnumType) : Data :=
  .object [("uid", e.uid.toData), ("name", .text e.name), ("underlying", e.underlying.toData),
    ("enumerators", .ofList Enumerator.toData e.enumerators)]

def ofData? (d : Data) : Option EnumType := do
  let fs ← d.fieldsOf? ["uid", "name", "underlying", "enumerators"]
  return {
    uid := ← Data.required fs "uid" Uid.ofData?
    name := ← Data.required fs "name" Data.asText?
    underlying := ← Data.required fs "underlying" TypeRef.ofData?
    enumerators := ← Data.listed fs "enumerators" Enumerator.ofData? }

end EnumType

end HeaderAbi
