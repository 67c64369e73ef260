import HeaderAbi.Entity.EnumType
import HeaderAbi.Entity.Function
import HeaderAbi.Entity.Record

/-!
# Facts

The declarations of one header unit as a compiler reports them, after it has resolved type
definitions.  A type is a spelling with decorations; a record either has a layout or is declared
only.
-/

namespace HeaderAbi

/-- A type as a compiler spells it, with its decorations. -/
structure SpelledType where
  name : String := ""
  /-- The arguments, when the name is that of a class template. -/
  templateArguments : List String := []
  qualifiers : Qualifiers := {}
  indirection : List Indirection := []
  extents : List (Option UInt64) := []
deriving DecidableEq, Inhabited

/-- A use of a type: one with a name, or a function type, whose name then says nothing. -/
inductive TypeFact where
  | named (spelled : SpelledType)
  | function (spelled : SpelledType) (result : TypeFact) (parameters : List TypeFact)
      (variadic : Bool) (convention : Option String)
deriving Inhabited

/-- The signature of a function type. -/
structure SignatureFact where
  result : TypeFact
  parameters : List TypeFact
  variadic : Bool := false
  convention : Option String := none

namespace TypeFact

def spelled : TypeFact → SpelledType
  | .named s => s
  | .function s .. => s

/-- Change the decorations. -/
def mapSpelled (f : SpelledType → SpelledType) : TypeFact → TypeFact
  | .named s => .named (f s)
  | .function s r ps v c => .function (f s) r ps v c

def ofName (name : String) : TypeFact := .named { name }

def ofSignature (s : SignatureFact) : TypeFact :=
  .function {} s.result s.parameters s.variadic s.convention

def pointer (t : TypeFact) : TypeFact :=
  t.mapSpelled fun s => { s with indirection := s.indirection ++ [.pointer {}] }

def constant (t : TypeFact) : TypeFact :=
  t.mapSpelled fun s => { s with qualifiers := { s.qualifiers with isConst := true } }

end TypeFact

structure BaseFact where
  type : TypeFact
  offsetBits : UInt64
  access : Access := .everyone
  isVirtual : Bool := false

structure FieldFact where
  name : String
  type : TypeFact
  offsetBits : UInt64
  isBitField : Bool := false
  bitWidth : Option UInt32 := none
  access : Access := .everyone

/-- A method told by its signature. -/
structure MethodFact where
  name : String
  parameters : List TypeFact := []
  variadic : Bool := false

/-- A slot of a virtual table.  A function slot names its method; the others carry a value. -/
structure SlotFact where
  kind : SlotKind
  value : String := ""
  method : Option MethodFact := none
  isPure : Bool := false

/-- The layout of a complete record. -/
structure LayoutFact where
  sizeBits : UInt64
  alignBits : UInt64
  bases : List BaseFact := []
  fields : List FieldFact := []
  vtable : List SlotFact := []

/-- A record; without a layout it is declared only. -/
structure RecordFact where
  name : String
  kind : RecordKind := .struct
  templateArguments : List String := []
  layout : Option LayoutFact := none

structure EnumeratorFact where
  name : String
  value : EnumeratorValue

/-- An enumeration; without an underlying type it is based on `int`. -/
structure EnumFact where
  name : String
  underlying : Option TypeFact := none
  enumerators : List EnumeratorFact := []

structure FunctionFact where
  name : String
  result : TypeFact
  parameters : List TypeFact := []
  variadic : Bool := false
  /-- The convention as the compiler spells it. -/
  convention : Option String := none
  linkage : Linkage := .external
  access : Access := .everyone
  dispatch : Option Dispatch := none
  parent : Option TypeFact := none

structure VariableFact where
  name : String
  type : TypeFact
  linkage : Linkage := .external

/-- One declaration of a unit. -/
inductive Declaration where
  | record (fact : RecordFact)
  | enum (fact : EnumFact)
  | function (fact : FunctionFact)
  | variable (fact : VariableFact)

namespace Declaration

def name : Declaration → String
  | .record r => r.name
  | .enum e => e.name
  | .function f => f.name
  | .variable v => v.name

end Declaration

/-- The declarations of a header unit. -/
structure Facts where
  unit : String
  declarations : List Declaration := []

/-- The version of the facts schema. -/
def factsVersion : UInt32 := 1

namespace RecordFact

/-- The same record with one more field; a declaration takes none. -/
def addField (r : RecordFact) (f : FieldFact) : RecordFact :=
  { r with layout := r.layout.map fun l => { l with fields := l.fields ++ [f] } }

/-- The same record with one more virtual method; a declaration takes none. -/
def addMethod (r : RecordFact) (m : MethodFact) : RecordFact :=
  { r with layout := r.layout.map fun l =>
      { l with vtable := l.vtable ++ [{ kind := .function, method := some m }] } }

end RecordFact

end HeaderAbi
