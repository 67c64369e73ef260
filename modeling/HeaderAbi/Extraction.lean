import HeaderAbi.Builtin
import HeaderAbi.Facts.Basic
import HeaderAbi.Snapshot.Draft
import HeaderAbi.Snapshot.Merge

/-!
# Extraction

From the facts of a unit to its snapshot.  Every declaration is mapped on its own: names are
trimmed, spellings of fundamental types take their one name, and identifiers are built from names
and parameter types.  Several declarations of one record collapse when at most one of them is a
definition.
-/

namespace HeaderAbi

namespace Extraction

/-- A declaration of a unit that cannot be mapped. -/
def invalid (unit name reason : String) : Error :=
  .declaration unit name reason

/-- A declaration must have a name. -/
def requireName (unit name what : String) : Except Error Unit :=
  if (Text.trim name).isEmpty then
    .error (invalid unit "<anonymous>" (what ++ " has an empty name"))
  else .ok ()

/-- A template argument under its one spelling. -/
def canonicalArgument (argument : String) : String :=
  (Builtin.canonicalName argument).getD (Text.trim argument)

/-- The identifier of a type known by name. -/
def typeUid (unit owner : String) (s : SpelledType) : Except Error Uid :=
  if (Text.trim s.name).isEmpty then
    .error (invalid unit owner "type reference has an empty name")
  else if s.templateArguments.isEmpty then
    .ok (match Builtin.canonicalName s.name with
      | some name => ⟨name⟩
      | none => .ofName s.name)
  else .ok (.ofInstantiation s.name (s.templateArguments.map canonicalArgument))

/-- The convention of a spelling; the C convention when there is none. -/
def conventionOf (spelling : Option String) : CallingConvention :=
  match spelling with
  | none => .cdecl
  | some s => .ofSpelling s

/-- The decorations of a spelled type around an identifier. -/
def decorate (uid : Uid) (s : SpelledType) : TypeUse :=
  ⟨uid, s.qualifiers, s.indirection, s.extents⟩

mutual

/-- Map a use of a type.  A function type gets the identifier of its mapped signature. -/
def typeRef (unit owner : String) : TypeFact → Except Error TypeRef
  | .named s => do
    return .named (decorate (← typeUid unit owner s) s)
  | .function s result parameters variadic convention => do
    let signature : Signature := {
      result := ← typeRef unit owner result
      parameters := ← typeRefs unit owner parameters
      variadic
      convention := conventionOf convention }
    return .function (decorate signature.uid s) signature.result signature.parameters variadic
      signature.convention

def typeRefs (unit owner : String) : List TypeFact → Except Error (List TypeRef)
  | [] => return []
  | t :: ts => do return (← typeRef unit owner t) :: (← typeRefs unit owner ts)

end

def base (unit owner : String) (b : BaseFact) : Except Error Base := do
  return ⟨← typeUid unit owner b.type.spelled, b.offsetBits, b.access, b.isVirtual⟩

/-- Map a field.  An unnamed one keeps its empty name. -/
def field (unit owner : String) (f : FieldFact) : Except Error Field := do
  if f.isBitField && f.bitWidth.isNone then
    throw (invalid unit owner s!"bitfield '{f.name}' has no width")
  return ⟨f.name, ← typeRef unit owner f.type, f.offsetBits, f.bitWidth, f.access⟩

/-- The kinds of slot that name a method unless they carry a value. -/
def needsMethod : SlotKind → Bool
  | .function => true
  | .completeDestructor => true
  | .deletingDestructor => true
  | _ => false

def slotValue (unit owner : String) (s : SlotFact) : Except Error String :=
  match s.method with
  | some m => do
    let parameters ← typeRefs unit owner m.parameters
    return (Function.uidFor m.name parameters m.variadic).text
  | none =>
    if needsMethod s.kind && s.value.isEmpty then
      .error (invalid unit owner "function vtable slot names no method")
    else .ok s.value

def slot (unit owner : String) (s : SlotFact) : Except Error Slot := do
  return ⟨s.kind, ← slotValue unit owner s, s.isPure⟩

/-- Map a record.  Without a layout it stays opaque. -/
def record (unit : String) (r : RecordFact) : Except Error Record := do
  requireName unit r.name "record"
  let arguments := r.templateArguments.map canonicalArgument
  let name := Text.trim r.name
  let uid := Uid.ofInstantiation r.name arguments
  let template : TemplateOrigin :=
    if arguments.isEmpty then .plain else .instantiation name arguments
  match r.layout with
  | none => return { uid, name, kind := r.kind, template, isOpaque := true }
  | some l =>
    let bases ← l.bases.mapM (base unit uid.text)
    let fields ← l.fields.mapM (field unit uid.text)
    let vtable ← l.vtable.mapM (slot unit uid.text)
    return { uid, name, kind := r.kind, sizeBits := l.sizeBits, alignBits := l.alignBits, bases,
             fields, vtable, template, isOpaque := false }

def enumerator (unit owner : String) (e : EnumeratorFact) : Except Error Enumerator :=
  if (Text.trim e.name).isEmpty then
    .error (invalid unit owner "enumerator has an empty name")
  else .ok ⟨e.name, e.value⟩

def enumeration (unit : String) (e : EnumFact) : Except Error EnumType := do
  requireName unit e.name "enum"
  let underlying ← match e.underlying with
    | some t => typeRef unit e.name t
    | none => pure (.ofName "int")
  let enumerators ← e.enumerators.mapM (enumerator unit e.name)
  return { uid := .ofName e.name, name := Text.trim e.name, underlying, enumerators }

def function (unit : String) (f : FunctionFact) : Except Error Function := do
  requireName unit f.name "function"
  let parameters ← typeRefs unit f.name f.parameters
  let parent ← match f.parent with
    | some t => do pure (some (← typeUid unit f.name t.spelled))
    | none => pure none
  if f.dispatch.isSome && parent.isNone then
    throw (invalid unit f.name "virtual function without an owning record")
  let result ← typeRef unit f.name f.result
  return {
    uid := Function.uidFor f.name parameters f.variadic
    name := Text.trim f.name
    result
    parameters
    variadic := f.variadic
    convention := conventionOf f.convention
    linkage := f.linkage
    access := f.access
    dispatch := f.dispatch
    parent }

def global (unit : String) (v : VariableFact) : Except Error GlobalVar := do
  requireName unit v.name "variable"
  let type ← typeRef unit v.name v.type
  return { uid := .ofName v.name, name := Text.trim v.name, type, linkage := v.linkage }

/-- An extraction in progress.  Records wait until the end, because a later definition takes the
place of an earlier declaration. -/
structure Staging where
  draft : Draft
  records : Table Record := .empty

/-- A fault of the model as an error. -/
def lift {α : Type} (r : Except Fault α) : Except Error α :=
  r.mapError Error.ofFault

namespace Staging

/-- Take in a mapped record.  A second definition goes to the draft at once, so that it meets the
first one there at the end. -/
def addRecord (s : Staging) (r : Record) : Except Error Staging :=
  match s.records.get? r.uid with
  | none => .ok { s with records := s.records.put r }
  | some waiting =>
    if waiting.isOpaque then .ok { s with records := s.records.put r }
    else if r.isOpaque then .ok s
    else do return { s with draft := ← lift (s.draft.add r) }

/-- Take in a declaration. -/
def add (unit : String) (s : Staging) : Declaration → Except Error Staging
  | .record r => do s.addRecord (← record unit r)
  | .enum e => do
    let e ← enumeration unit e
    return { s with draft := ← lift (s.draft.add e) }
  | .function f => do
    let f ← function unit f
    return { s with draft := ← lift (s.draft.add f) }
  | .variable v => do
    let g ← global unit v
    return { s with draft := ← lift (s.draft.add g) }

end Staging

end Extraction

namespace Facts

open Extraction in
/-- The snapshot of a unit, under the unit name given. -/
def extractAs (facts : Facts) (unit : String) : Except Error Snapshot := do
  let s ← facts.declarations.foldlM (Staging.add unit) { draft := { unit := some unit } }
  let draft ← lift (s.draft.addAll s.records.entries)
  (lift draft.build).mapError (Error.within ("extracting unit " ++ unit))

/-- The snapshot of a unit.  A unit that does not name itself goes by the name of its source. -/
def extract (facts : Facts) (source : String) : Except Error Snapshot :=
  facts.extractAs (if facts.unit.isEmpty then source else facts.unit)

/-- The snapshots of several named sources, merged in order. -/
def extractAll (sources : List (String × Except Error Facts)) : Except Error Snapshot := do
  let parts ← sources.mapM fun (name, facts) => do
    return (name, ← (← facts).extract name)
  Snapshot.merge parts

end Facts

end HeaderAbi
