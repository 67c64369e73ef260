import HeaderAbi.TypeRef.Basic

/-!
# Uses of types in dumps

The form in which dumps hold a use of a type, and its reader.  A function type is written inside the
use, under the key `function`.
-/

namespace HeaderAbi

namespace Uid

def toData (u : Uid) : Data := .text u.text

def ofData? (d : Data) : Option Uid := d.asText?.map Uid.mk

end Uid

namespace Qualifiers

def toData (q : Qualifiers) : Data :=
  .object [("is_const", .bool q.isConst), ("is_volatile", .bool q.isVolatile),
    ("is_restrict", .bool q.isRestrict)]

def ofData? (d : Data) : Option Qualifiers := do
  let fs ← d.fieldsOf? ["is_const", "is_volatile", "is_restrict"]
  return ⟨← Data.flag fs "is_const", ← Data.flag fs "is_volatile", ← Data.flag fs "is_restrict"⟩

end Qualifiers

namespace Indirection

def toData : Indirection → Data
  | .pointer q => .tagged "pointer" q.toData
  | .lvalueReference => .text "lvalue_reference"
  | .rvalueReference => .text "rvalue_reference"

def ofData? (d : Data) : Option Indirection :=
  match d.variant? with
  | some ("pointer", some content) => (Qualifiers.ofData? content).map .pointer
  | _ => d.asName? [("lvalue_reference", .lvalueReference), ("rvalue_reference", .rvalueReference)]

end Indirection

namespace TypeRef

/-- The decorations of a use and the form of its signature. -/
def formOf (u : TypeUse) (signature : Data) : Data :=
  .object [("uid", u.uid.toData), ("qualifiers", u.qualifiers.toData),
    ("indirection", Data.ofList Indirection.toData u.indirection),
    ("array_extents", Data.ofList (Data.ofOption Data.ofUInt64) u.extents),
    ("function", signature)]

mutual

def toData : TypeRef → Data
  | .named u => formOf u .null
  | .function u r ps v c =>
    formOf u (.object [("return_type", toData r), ("parameters", .list (toDataList ps)),
      ("variadic", .bool v), ("calling_convention", c.toData)])

def toDataList : List TypeRef → List Data
  | [] => []
  | t :: ts => toData t :: toDataList ts

end

/-- Read a use nested at most `fuel` signatures deep. -/
def ofDataWithin? : Nat → Data → Option TypeRef
  | 0, _ => none
  | fuel + 1, d => do
    let fs ← d.fieldsOf? ["uid", "qualifiers", "indirection", "array_extents", "function"]
    let use : TypeUse := {
      uid := ← Data.required fs "uid" Uid.ofData?
      qualifiers := ← Data.defaulted fs "qualifiers" Qualifiers.ofData? {}
      indirection := ← Data.listed fs "indirection" Indirection.ofData?
      extents := ← Data.listed fs "array_extents" (Data.asOption? Data.asUInt64?) }
    let signature ← Data.optional fs "function" fun d => do
      let fs ← d.fieldsOf? ["return_type", "parameters", "variadic", "calling_convention"]
      let s : Signature := {
        result := ← Data.required fs "return_type" (ofDataWithin? fuel)
        parameters := ← Data.listed fs "parameters" (ofDataWithin? fuel)
        variadic := ← Data.flag fs "variadic"
        convention := ←
          Data.defaulted fs "calling_convention" CallingConvention.ofData? .cdecl }
      return s
    return match signature with
      | none => .named use
      | some s => .function use s.result s.parameters s.variadic s.convention

/-- Read a use of a type.  A signature lies at least one level deeper in the data than its use, so
the depth of the data bounds the nesting. -/
def ofData? (d : Data) : Option TypeRef :=
  ofDataWithin? (d.depth + 1) d

end TypeRef

end HeaderAbi
