import HeaderAbi.Entity.Linkage
import HeaderAbi.TypeRef.Form

/-!
# Records

Structs, classes and unions: their fields, bases and virtual tables.  A record that is only declared
is *opaque*: it has a name and no layout.
-/

namespace HeaderAbi

inductive RecordKind where
  | struct
  | classType
  | union
deriving DecidableEq, Inhabited

namespace RecordKind

def word : RecordKind → String
  | .struct => "struct"
  | .classType => "class"
  | .union => "union"

def all : List RecordKind := [.struct, .classType, .union]

def toData (k : RecordKind) : Data := .text k.word

def ofData? (d : Data) : Option RecordKind := d.asName? (all.map fun k => (k.word, k))

end RecordKind

/-- A base class and where it lies. -/
structure Base where
  uid : Uid
  offsetBits : UInt64
  access : Access := .everyone
  isVirtual : Bool := false
deriving DecidableEq, Inhabited

/-- A data member.  A width makes it a bit-field. -/
structure Field where
  name : String
  type : TypeRef
  offsetBits : UInt64
  bitWidth : Option UInt32 := none
  access : Access := .everyone
deriving DecidableEq, Inhabited

namespace Field

def isBitField (f : Field) : Bool := f.bitWidth.isSome

def isUnnamed (f : Field) : Bool := f.name.isEmpty

/-- The name of the field in messages; an unnamed one is told by its offset. -/
def label (f : Field) : String :=
  if f.isUnnamed then "<unnamed@" ++ toString f.offsetBits ++ ">" else f.name

end Field

/-- What a slot of a virtual table holds. -/
inductive SlotKind where
  | vcallOffset
  | vbaseOffset
  | offsetToTop
  | rtti
  | function
  | completeDestructor
  | deletingDestructor
  | unusedFunction
deriving DecidableEq, Inhabited

namespace SlotKind

/-- The kind in messages. -/
def words : SlotKind → String
  | .vcallOffset => "vcall offset"
  | .vbaseOffset => "vbase offset"
  | .offsetToTop => "offset to top"
  | .rtti => "rtti"
  | .function => "function pointer"
  | .completeDestructor => "complete dtor pointer"
  | .deletingDestructor => "deleting dtor pointer"
  | .unusedFunction => "unused function pointer"

/-- The kind in dumps and facts. -/
def key : SlotKind → String
  | .vcallOffset => "v_call_offset"
  | .vbaseOffset => "v_base_offset"
  | .offsetToTop => "offset_to_top"
  | .rtti => "rtti"
  | .function => "function_pointer"
  | .completeDestructor => "complete_dtor_pointer"
  | .deletingDestructor => "deleting_dtor_pointer"
  | .unusedFunction => "unused_function_pointer"

def all : List SlotKind := [.vcallOffset, .vbaseOffset, .offsetToTop, .rtti, .function,
  .completeDestructor, .deletingDestructor, .unusedFunction]

def toData (k : SlotKind) : Data := .text k.key

def ofData? (d : Data) : Option SlotKind := d.asName? (all.map fun k => (k.key, k))

end SlotKind

/-- A slot of a virtual table. -/
structure Slot where
  kind : SlotKind
  value : String
  isPure : Bool := false
deriving DecidableEq, Inhabited

namespace Slot

def spelling (s : Slot) : String :=
  s.kind.words ++ " " ++ s.value ++ if s.isPure then " = 0" else ""

end Slot

/-- Whether a record comes from a template, and from which arguments. -/
inductive TemplateOrigin where
  | plain
  | instantiation (template : String) (arguments : List String)
deriving DecidableEq, Inhabited

namespace TemplateOrigin

def isInstantiation : TemplateOrigin → Bool
  | .plain => false
  | .instantiation .. => true

end TemplateOrigin

/-- A struct, class or union. -/
structure Record where
  uid : Uid
  name : String
  kind : RecordKind := .struct
  sizeBits : UInt64 := 0
  alignBits : UInt64 := 0
  bases : List Base := []
  fields : List Field := []
  vtable : List Slot := []
  template : TemplateOrigin := .plain
  /-- Declared only. -/
  isOpaque : Bool := false
deriving DecidableEq, Inhabited

namespace Record

def isUnion (r : Record) : Bool := r.kind == .union

/-- Has a virtual table. -/
def isDynamic (r : Record) : Bool := !r.vtable.isEmpty

/-- A complete record without any content: as a base it may take no room. -/
def isEmptyLayout (r : Record) : Bool :=
  !r.isOpaque && r.fields.isEmpty && r.bases.isEmpty && r.vtable.isEmpty

def field? (r : Record) (name : String) : Option Field :=
  r.fields.find? (·.name == name)

/-- A complete record without content. -/
def complete (name : String) (kind : RecordKind) (sizeBits alignBits : UInt64) : Record :=
  { uid := .ofName name, name, kind, sizeBits, alignBits }

/-- A forward declaration. -/
def declared (name : String) (kind : RecordKind) : Record :=
  { uid := .ofName name, name, kind, isOpaque := true }

def addField (r : Record) (f : Field) : Record :=
  { r with fields := r.fields ++ [f] }

def addBase (r : Record) (b : Base) : Record :=
  { r with bases := r.bases ++ [b] }

def addSlot (r : Record) (s : Slot) : Record :=
  { r with vtable := r.vtable ++ [s] }

end Record

/-! ## Records in dumps -/

namespace Base

def toData (b : Base) : Data :=
  .object [("uid", b.uid.toData), ("offset_bits", .ofUInt64 b.offsetBits),
    ("access", b.access.toData), ("is_virtual", .bool b.isVirtual)]

def ofData? (d : Data) : Option Base := do
  let fs ← d.fieldsOf? ["uid", "offset_bits", "access", "is_virtual"]
  return {
    uid := ← Data.required fs "uid" Uid.ofData?
    offsetBits := ← Data.required fs "offset_bits" Data.asUInt64?
    access := ← Data.defaulted fs "access" Access.ofData? .everyone
    isVirtual := ← Data.flag fs "is_virtual" }

end Base

namespace Field

def toData (f : Field) : Data :=
  .object [("name", .text f.name), ("type_ref", f.type.toData),
    ("offset_bits", .ofUInt64 f.offsetBits), ("bit_width", .ofOption .ofUInt32 f.bitWidth),
    ("access", f.access.toData)]

def ofData? (d : Data) : Option Field := do
  let fs ← d.fieldsOf? ["name", "type_ref", "offset_bits", "bit_width", "access"]
  return {
    name := ← Data.required fs "name" Data.asText?
    type := ← Data.required fs "type_ref" TypeRef.ofData?
    offsetBits := ← Data.required fs "offset_bits" Data.asUInt64?
    bitWidth := ← Data.optional fs "bit_width" Data.asUInt32?
    access := ← Data.defaulted fs "access" Access.ofData? .everyone }

end Field

namespace Slot

def toData (s : Slot) : Data :=
  .object [("kind", s.kind.toData), ("value", .text s.value), ("is_pure", .bool s.isPure)]

def ofData? (d : Data) : Option Slot := do
  let fs ← d.fieldsOf? ["kind", "value", "is_pure"]
  return {
    kind := ← Data.required fs "kind" SlotKind.ofData?
    value := ← Data.required fs "value" Data.asText?
    isPure := ← Data.flag fs "is_pure" }

end Slot

namespace TemplateOrigin

def toData : TemplateOrigin → Data
  | .plain => .text "plain"
  | .instantiation template arguments =>
    .tagged "instantiation" (.object [("template_name", .text template),
      ("arguments", .ofList .text arguments)])

def ofData? (d : Data) : Option TemplateOrigin :=
  match d.variant? with
  | some ("instantiation", some content) => do
    let fs ← content.fields?
    return .instantiation (← Data.required fs "template_name" Data.asText?)
      (← Data.required fs "arguments" (Data.asList? Data.asText?))
  | _ => d.asName? [("plain", .plain)]

end TemplateOrigin

namespace Record

def toData (r : Record) : Data :=
  .object [("uid", r.uid.toData), ("name", .text r.name), ("kind", r.kind.toData),
    ("size_bits", .ofUInt64 r.sizeBits), ("align_bits", .ofUInt64 r.alignBits),
    ("bases", .ofList Base.toData r.bases), ("fields", .ofList Field.toData r.fields),
    ("vtable", .ofList Slot.toData r.vtable), ("template", r.template.toData),
    ("is_opaque", .bool r.isOpaque)]

def ofData? (d : Data) : Option Record := do
  let fs ← d.fieldsOf? ["uid", "name", "kind", "size_bits", "align_bits", "bases", "fields",
    "vtable", "template", "is_opaque"]
  return {
    uid := ← Data.required fs "uid" Uid.ofData?
    name := ← Data.required fs "name" Data.asText?
    kind := ← Data.defaulted fs "kind" RecordKind.ofData? .struct
    sizeBits := ← Data.defaulted fs "size_bits" Data.asUInt64? 0
    alignBits := ← Data.defaulted fs "align_bits" Data.asUInt64? 0
    bases := ← Data.listed fs "bases" Base.ofData?
    fields := ← Data.listed fs "fields" Field.ofData?
    vtable := ← Data.listed fs "vtable" Slot.ofData?
    template := ← Data.defaulted fs "template" TemplateOrigin.ofData? .plain
    isOpaque := ← Data.flag fs "is_opaque" }

end Record

end HeaderAbi
