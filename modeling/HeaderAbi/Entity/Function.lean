import HeaderAbi.Entity.Linkage
import HeaderAbi.TypeRef.Form
import HeaderAbi.TypeRef.Spelling

/-!
# Functions and global variables
-/

namespace HeaderAbi

/-- How a virtual function is dispatched. -/
structure Dispatch where
  vtableIndex : UInt32
  isPure : Bool := false
deriving DecidableEq, Inhabited

/-- A free function or member function. -/
structure Function where
  uid : Uid
  name : String
  result : TypeRef
  parameters : List TypeRef := []
  variadic : Bool := false
  convention : CallingConvention := .cdecl
  linkage : Linkage := .external
  access : Access := .everyone
  dispatch : Option Dispatch := none
  /-- The record that owns a member function. -/
  parent : Option Uid := none
deriving DecidableEq, Inhabited

namespace Function

def isVirtual (f : Function) : Bool := f.dispatch.isSome

/-- Every type the function mentions, result first. -/
def types (f : Function) : List TypeRef := f.result :: f.parameters

/-- The identifier that a name and its parameter types give. -/
def uidFor (name : String) (parameters : List TypeRef) (variadic : Bool) : Uid :=
  .ofFunction name (parameters.map TypeRef.spelling) variadic

/-- An external free function that is not variadic. -/
def free (name : String) (result : TypeRef) (parameters : List TypeRef) : Function :=
  { uid := uidFor name parameters false, name, result, parameters }

/-- The same function taking further arguments, under the identifier of a variadic function. -/
def asVariadic (f : Function) : Function :=
  { f with variadic := true, uid := uidFor f.name f.parameters true }

/-- The same function as a virtual member of a record. -/
def asVirtualMember (f : Function) (parent : Uid) (vtableIndex : UInt32) : Function :=
  { f with parent := some parent, dispatch := some ⟨vtableIndex, false⟩ }

end Function

structure GlobalVar where
  uid : Uid
  name : String
  type : TypeRef
  linkage : Linkage := .external
deriving DecidableEq, Inhabited

namespace GlobalVar

/-- An external variable. -/
def ofName (name : String) (type : TypeRef) : GlobalVar :=
  { uid := .ofName name, name, type }

end GlobalVar

/-! ## Functions and variables in dumps -/

namespace Dispatch

def toData (v : Dispatch) : Data :=
  .object [("vtable_index", .ofUInt32 v.vtableIndex), ("is_pure", .bool v.isPure)]

def ofData? (d : Data) : Option Dispatch := do
  let fs ← d.fieldsOf? ["vtable_index", "is_pure"]
  return {
    vtableIndex := ← Data.required fs "vtable_index" Data.asUInt32?
    isPure := ← Data.flag fs "is_pure" }

end Dispatch

namespace Function

def toData (f : Function) : Data :=
  .object [("uid", f.uid.toData), ("name", .text f.name), ("return_type", f.result.toData),
    ("parameters", .ofList TypeRef.toData f.parameters), ("variadic", .bool f.variadic),
    ("calling_convention", f.convention.toData), ("linkage", f.linkage.toData),
    ("access", f.access.toData), ("virtual_info", .ofOption Dispatch.toData f.dispatch),
    ("parent", .ofOption Uid.toData f.parent)]

def ofData? (d : Data) : Option Function := do
  let fs ← d.fieldsOf? ["uid", "name", "return_type", "parameters", "variadic",
    "calling_convention", "linkage", "access", "virtual_info", "parent"]
  return {
    uid := ← Data.required fs "uid" Uid.ofData?
    name := ← Data.required fs "name" Data.asText?
    result := ← Data.required fs "return_type" TypeRef.ofData?
    parameters := ← Data.listed fs "parameters" TypeRef.ofData?
    variadic := ← Data.flag fs "variadic"
    convention := ← Data.defaulted fs "calling_convention" CallingConvention.ofData? .cdecl
    linkage := ← Data.defaulted fs "linkage" Linkage.ofData? .external
    access := ← Data.defaulted fs "access" Access.ofData? .everyone
    dispatch := ← Data.optional fs "virtual_info" Dispatch.ofData?
    parent := ← Data.optional fs "parent" Uid.ofData? }

end Function

namespace GlobalVar

def toData (g : GlobalVar) : Data :=
  .object [("uid", g.uid.toData), ("name", .text g.name), ("type_ref", g.type.toData),
    ("linkage", g.linkage.toData)]

def ofData? (d : Data) : Option GlobalVar := do
  let fs ← d.fieldsOf? ["uid", "name", "type_ref", "linkage"]
  return {
    uid := ← Data.required fs "uid" Uid.ofData?
    name := ← Data.required fs "name" Data.asText?
    type := ← Data.required fs "type_ref" TypeRef.ofData?
    linkage := ← Data.defaulted fs "linkage" Linkage.ofData? .external }

end GlobalVar

end HeaderAbi
