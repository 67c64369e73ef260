import HeaderAbi.Facts.Basic

/-!
# Facts as data

The form in which compilers hand over facts, and its readers.  A declaration is an object with a
`kind` beside its own fields.
-/

namespace HeaderAbi

namespace TypeFact

/-- The decorations of a type and its signature, which is left out when there is none. -/
def formOf (s : SpelledType) (signature : Option Data) : Data :=
  .object ([("name", .text s.name), ("template_args", .ofList .text s.templateArguments),
    ("qualifiers", s.qualifiers.toData), ("indirection", .ofList Indirection.toData s.indirection),
    ("array_extents", .ofList (.ofOption .ofUInt64) s.extents)] ++
    (signature.map fun d => ("function", d)).toList)

mutual

def toData : TypeFact → Data
  | .named s => formOf s none
  | .function s r ps v c =>
    formOf s (some (.object [("return_type", toData r), ("parameters", .list (toDataList ps)),
      ("variadic", .bool v), ("calling_convention", .ofOption .text c)]))

def toDataList : List TypeFact → List Data
  | [] => []
  | t :: ts => toData t :: toDataList ts

end

/-- Read a type nested at most `fuel` signatures deep. -/
def ofDataWithin? : Nat → Data → Option TypeFact
  | 0, _ => none
  | fuel + 1, d => do
    let fs ← d.fieldsOf? ["name", "template_args", "qualifiers", "indirection", "array_extents",
      "function"]
    let spelled : SpelledType := {
      name := ← Data.defaulted fs "name" Data.asText? ""
      templateArguments := ← Data.listed fs "template_args" Data.asText?
      qualifiers := ← Data.defaulted fs "qualifiers" Qualifiers.ofData? {}
      indirection := ← Data.listed fs "indirection" Indirection.ofData?
      extents := ← Data.listed fs "array_extents" (Data.asOption? Data.asUInt64?) }
    let signature ← Data.optional fs "function" fun d => do
      let fs ← d.fieldsOf? ["return_type", "parameters", "variadic", "calling_convention"]
      let s : SignatureFact := {
        result := ← Data.required fs "return_type" (ofDataWithin? fuel)
        parameters := ← Data.listed fs "parameters" (ofDataWithin? fuel)
        variadic := ← Data.flag fs "variadic"
        convention := ← Data.optional fs "calling_convention" Data.asText? }
      return s
    return match signature with
      | none => .named spelled
      | some s => .function spelled s.result s.parameters s.variadic s.convention

/-- Read a type.  The depth of the data bounds the nesting of signatures. -/
def ofData? (d : Data) : Option TypeFact :=
  ofDataWithin? (d.depth + 1) d

end TypeFact

namespace BaseFact

def toData (b : BaseFact) : Data :=
  .object [("type_ref", b.type.toData), ("offset_bits", .ofUInt64 b.offsetBits),
    ("access", b.access.toData), ("is_virtual", .bool b.isVirtual)]

def ofData? (d : Data) : Option BaseFact := do
  let fs ← d.fieldsOf? ["type_ref", "offset_bits", "access", "is_virtual"]
  return {
    type := ← Data.required fs "type_ref" TypeFact.ofData?
    offsetBits := ← Data.required fs "offset_bits" Data.asUInt64?
    access := ← Data.defaulted fs "access" Access.ofData? .everyone
    isVirtual := ← Data.flag fs "is_virtual" }

end BaseFact

namespace FieldFact

def toData (f : FieldFact) : Data :=
  .object [("name", .text f.name), ("type_ref", f.type.toData),
    ("offset_bits", .ofUInt64 f.offsetBits), ("is_bitfield", .bool f.isBitField),
    ("bit_width", .ofOption .ofUInt32 f.bitWidth), ("access", f.access.toData)]

def ofData? (d : Data) : Option FieldFact := do
  let fs ← d.fieldsOf? ["name", "type_ref", "offset_bits", "is_bitfield", "bit_width", "access"]
  return {
    name := ← Data.required fs "name" Data.asText?
    type := ← Data.required fs "type_ref" TypeFact.ofData?
    offsetBits := ← Data.required fs "offset_bits" Data.asUInt64?
    isBitField := ← Data.flag fs "is_bitfield"
    bitWidth := ← Data.optional fs "bit_width" Data.asUInt32?
    access := ← Data.defaulted fs "access" Access.ofData? .everyone }

end FieldFact

namespace MethodFact

def toData (m : MethodFact) : Data :=
  .object [("name", .text m.name), ("parameters", .ofList TypeFact.toData m.parameters),
    ("variadic", .bool m.variadic)]

def ofData? (d : Data) : Option MethodFact := do
  let fs ← d.fieldsOf? ["name", "parameters", "variadic"]
  return {
    name := ← Data.required fs "name" Data.asText?
    parameters := ← Data.listed fs "parameters" TypeFact.ofData?
    variadic := ← Data.flag fs "variadic" }

end MethodFact

namespace SlotFact

def toData (s : SlotFact) : Data :=
  .object [("component", s.kind.toData), ("value", .text s.value),
    ("method", .ofOption MethodFact.toData s.method), ("is_pure", .bool s.isPure)]

def ofData? (d : Data) : Option SlotFact := do
  let fs ← d.fieldsOf? ["component", "value", "method", "is_pure"]
  return {
    kind := ← Data.required fs "component" SlotKind.ofData?
    value := ← Data.defaulted fs "value" Data.asText? ""
    method := ← Data.optional fs "method" MethodFact.ofData?
    isPure := ← Data.flag fs "is_pure" }

end SlotFact

namespace LayoutFact

def toData (l : LayoutFact) : Data :=
  .object [("size_bits", .ofUInt64 l.sizeBits), ("align_bits", .ofUInt64 l.alignBits),
    ("bases", .ofList BaseFact.toData l.bases), ("fields", .ofList FieldFact.toData l.fields),
    ("vtable", .ofList SlotFact.toData l.vtable)]

def ofData? (d : Data) : Option LayoutFact := do
  let fs ← d.fieldsOf? ["size_bits", "align_bits", "bases", "fields", "vtable"]
  return {
    sizeBits := ← Data.required fs "size_bits" Data.asUInt64?
    alignBits := ← Data.required fs "align_bits" Data.asUInt64?
    bases := ← Data.listed fs "bases" BaseFact.ofData?
    fields := ← Data.listed fs "fields" FieldFact.ofData?
    vtable := ← Data.listed fs "vtable" SlotFact.ofData? }

end LayoutFact

namespace EnumeratorFact

/-- The value is written as a bare number. -/
def toData (e : EnumeratorFact) : Data :=
  .object [("name", .text e.name), ("value", .int e.value.toInt)]

/-- A bare number is a signed value when it fits one, else an unsigned one. -/
def valueOfData? (d : Data) : Option EnumeratorValue :=
  match d.asInt64? with
  | some n => some (.signed n)
  | none => d.asUInt64?.map .unsigned

def ofData? (d : Data) : Option EnumeratorFact := do
  let fs ← d.fieldsOf? ["name", "value"]
  return {
    name := ← Data.required fs "name" Data.asText?
    value := ← Data.required fs "value" valueOfData? }

end EnumeratorFact

namespace Declaration

/-- The fields of a declaration, without its kind. -/
def fieldsOf : Declaration → Data.Fields
  | .record r =>
    [("name", .text r.name), ("record_kind", r.kind.toData),
      ("template_args", .ofList .text r.templateArguments),
      ("layout", .ofOption LayoutFact.toData r.layout)]
  | .enum e =>
    [("name", .text e.name), ("underlying", .ofOption TypeFact.toData e.underlying),
      ("enumerators", .ofList EnumeratorFact.toData e.enumerators)]
  | .function f =>
    [("name", .text f.name), ("return_type", f.result.toData),
      ("parameters", .ofList TypeFact.toData f.parameters), ("variadic", .bool f.variadic),
      ("calling_convention", .ofOption .text f.convention), ("linkage", f.linkage.toData),
      ("access", f.access.toData), ("virtual_info", .ofOption Dispatch.toData f.dispatch),
      ("parent", .ofOption TypeFact.toData f.parent)]
  | .variable v =>
    [("name", .text v.name), ("type_ref", v.type.toData), ("linkage", v.linkage.toData)]

/-- The name of the kind of a declaration. -/
def kind : Declaration → String
  | .record _ => "record"
  | .enum _ => "enum"
  | .function _ => "function"
  | .variable _ => "variable"

def toData (d : Declaration) : Data :=
  .object (("kind", .text d.kind) :: d.fieldsOf)

def recordOfData? (d : Data) : Option RecordFact := do
  let fs ← d.fieldsOf? ["name", "record_kind", "template_args", "layout"]
  return {
    name := ← Data.required fs "name" Data.asText?
    kind := ← Data.defaulted fs "record_kind" RecordKind.ofData? .struct
    templateArguments := ← Data.listed fs "template_args" Data.asText?
    layout := ← Data.optional fs "layout" LayoutFact.ofData? }

def enumOfData? (d : Data) : Option EnumFact := do
  let fs ← d.fieldsOf? ["name", "underlying", "enumerators"]
  return {
    name := ← Data.required fs "name" Data.asText?
    underlying := ← Data.optional fs "underlying" TypeFact.ofData?
    enumerators := ← Data.listed fs "enumerators" EnumeratorFact.ofData? }

def functionOfData? (d : Data) : Option FunctionFact := do
  let fs ← d.fieldsOf? ["name", "return_type", "parameters", "variadic", "calling_convention",
    "linkage", "access", "virtual_info", "parent"]
  return {
    name := ← Data.required fs "name" Data.asText?
    result := ← Data.required fs "return_type" TypeFact.ofData?
    parameters := ← Data.listed fs "parameters" TypeFact.ofData?
    variadic := ← Data.flag fs "variadic"
    convention := ← Data.optional fs "calling_convention" Data.asText?
    linkage := ← Data.defaulted fs "linkage" Linkage.ofData? .external
    access := ← Data.defaulted fs "access" Access.ofData? .everyone
    dispatch := ← Data.optional fs "virtual_info" Dispatch.ofData?
    parent := ← Data.optional fs "parent" TypeFact.ofData? }

def variableOfData? (d : Data) : Option VariableFact := do
  let fs ← d.fieldsOf? ["name", "type_ref", "linkage"]
  return {
    name := ← Data.required fs "name" Data.asText?
    type := ← Data.required fs "type_ref" TypeFact.ofData?
    linkage := ← Data.defaulted fs "linkage" Linkage.ofData? .external }

/-- The name of the kind of a declaration and the data of its own fields.  A list starts with the
kind. -/
def splitKind? : Data → Option (String × Data)
  | .list (kind :: items) => kind.asText?.map (·, .list items)
  | d => do
    let fs ← d.fields?
    return (← Data.required fs "kind" Data.asText?, d)

def ofData? (d : Data) : Option Declaration := do
  match ← splitKind? d with
  | ("record", d) => return .record (← recordOfData? d)
  | ("enum", d) => return .enum (← enumOfData? d)
  | ("function", d) => return .function (← functionOfData? d)
  | ("variable", d) => return .variable (← variableOfData? d)
  | _ => none

end Declaration

namespace Facts

def toData (f : Facts) : Data :=
  .object [("facts_version", .ofUInt32 factsVersion), ("unit", .text f.unit),
    ("declarations", .ofList Declaration.toData f.declarations)]

/-- Read facts whose version is known to be the supported one. -/
def ofData? (d : Data) : Option Facts := do
  let fs ← d.fieldsOf? ["facts_version", "unit", "declarations"]
  return {
    unit := ← Data.required fs "unit" Data.asText?
    declarations := ← Data.listed fs "declarations" Declaration.ofData? }

end Facts

end HeaderAbi
