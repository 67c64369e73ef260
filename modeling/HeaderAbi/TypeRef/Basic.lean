import HeaderAbi.CallingConvention
import HeaderAbi.Uid

/-!
# Uses of types

A `TypeRef` is one use of a type: the identifier of the type, which some snapshot must know, and the
decorations at the place of use.  A function type has no entry of its own in a snapshot; its
signature is part of the use, and the identifier is a spelling of that signature.
-/

namespace HeaderAbi

/-- The qualifiers of a type or of one pointer level. -/
structure Qualifiers where
  isConst : Bool := false
  isVolatile : Bool := false
  isRestrict : Bool := false
deriving DecidableEq, Inhabited

namespace Qualifiers

def none : Qualifiers := {}

def isEmpty (q : Qualifiers) : Bool :=
  !q.isConst && !q.isVolatile && !q.isRestrict

/-- The qualifiers that are set, in the order in which they are written. -/
def words (q : Qualifiers) : List String :=
  (if q.isConst then ["const"] else []) ++ (if q.isVolatile then ["volatile"] else []) ++
    (if q.isRestrict then ["restrict"] else [])

end Qualifiers

/-- One level of indirection. -/
inductive Indirection where
  /-- A pointer, with the qualifiers of the pointer itself. -/
  | pointer (qualifiers : Qualifiers)
  | lvalueReference
  | rvalueReference
deriving DecidableEq, Inhabited

/-- The type that is used and how it is decorated. -/
structure TypeUse where
  uid : Uid
  /-- The qualifiers of the type itself. -/
  qualifiers : Qualifiers := {}
  /-- Pointers and references, innermost first. -/
  indirection : List Indirection := []
  /-- Array extents, outermost first; `none` is the incomplete `[]`. -/
  extents : List (Option UInt64) := []
deriving DecidableEq, Inhabited

namespace TypeUse

/-- Reached through a pointer or reference. -/
def isIndirect (u : TypeUse) : Bool :=
  !u.indirection.isEmpty

/-- Neither indirection nor array extents. -/
def isBare (u : TypeUse) : Bool :=
  u.indirection.isEmpty && u.extents.isEmpty

end TypeUse

/-- One use of a type: a type known by name, or a function type with its signature. -/
inductive TypeRef where
  | named (use : TypeUse)
  | function (use : TypeUse) (result : TypeRef) (parameters : List TypeRef) (variadic : Bool)
      (convention : CallingConvention)
deriving Inhabited

/-- The signature of a function type. -/
structure Signature where
  result : TypeRef
  parameters : List TypeRef
  variadic : Bool := false
  convention : CallingConvention := .cdecl

namespace TypeRef

mutual

/-- Equality of uses is decided part by part. -/
def decideEq : (a b : TypeRef) → Decidable (a = b)
  | .named u, .named v =>
    if h : u = v then isTrue (h ▸ rfl) else isFalse fun e => h (by injection e)
  | .named _, .function .. => isFalse nofun
  | .function .., .named _ => isFalse nofun
  | .function u r ps w c, .function u' r' ps' w' c' =>
    if hu : u = u' then
      if hw : w = w' then
        if hc : c = c' then
          match decideEq r r', decideEqList ps ps' with
          | isTrue hr, isTrue hp => isTrue (by subst hu hw hc hr hp; rfl)
          | isFalse hr, _ => isFalse fun e => hr (by injection e)
          | _, isFalse hp => isFalse fun e => hp (by injection e)
        else isFalse fun e => hc (by injection e)
      else isFalse fun e => hw (by injection e)
    else isFalse fun e => hu (by injection e)

def decideEqList : (as bs : List TypeRef) → Decidable (as = bs)
  | [], [] => isTrue rfl
  | [], _ :: _ => isFalse nofun
  | _ :: _, [] => isFalse nofun
  | a :: as, b :: bs =>
    match decideEq a b, decideEqList as bs with
    | isTrue h, isTrue hs => isTrue (by subst h hs; rfl)
    | isFalse h, _ => isFalse fun e => h (by injection e)
    | _, isFalse hs => isFalse fun e => hs (by injection e)

end

instance : DecidableEq TypeRef := decideEq

/-- The decorated type itself. -/
def use : TypeRef → TypeUse
  | .named u => u
  | .function u .. => u

def uid (t : TypeRef) : Uid := t.use.uid

def signature? : TypeRef → Option Signature
  | .named _ => none
  | .function _ r ps v c => some ⟨r, ps, v, c⟩

def isFunction (t : TypeRef) : Bool := t.signature?.isSome

def isIndirect (t : TypeRef) : Bool := t.use.isIndirect

/-- Change the decorations of a use. -/
def mapUse (f : TypeUse → TypeUse) : TypeRef → TypeRef
  | .named u => .named (f u)
  | .function u r ps v c => .function (f u) r ps v c

/-- The plain use of a type. -/
def ofName (name : String) : TypeRef := .named ⟨⟨name⟩, {}, [], []⟩

/-- The same use, with the type `const`. -/
def constant (t : TypeRef) : TypeRef :=
  t.mapUse fun u => { u with qualifiers := { u.qualifiers with isConst := true } }

/-- A pointer to what `t` reaches. -/
def pointer (t : TypeRef) : TypeRef :=
  t.mapUse fun u => { u with indirection := u.indirection ++ [.pointer {}] }

/-- A reference to what `t` reaches. -/
def reference (t : TypeRef) : TypeRef :=
  t.mapUse fun u => { u with indirection := u.indirection ++ [.lvalueReference] }

/-- One more array dimension. -/
def array (t : TypeRef) (extent : Option UInt64) : TypeRef :=
  t.mapUse fun u => { u with extents := u.extents ++ [extent] }

mutual

/-- This use, then every use nested in its signature, result before parameters. -/
def walk : TypeRef → List TypeRef
  | .named u => [.named u]
  | .function u r ps v c => .function u r ps v c :: (walk r ++ walkList ps)

def walkList : List TypeRef → List TypeRef
  | [] => []
  | t :: ts => walk t ++ walkList ts

end

end TypeRef

namespace Signature

instance : DecidableEq Signature := fun a b =>
  if hr : a.result = b.result then
    if hp : a.parameters = b.parameters then
      if hv : a.variadic = b.variadic then
        if hc : a.convention = b.convention then
          isTrue (by cases a; cases b; simp_all)
        else isFalse fun e => hc (e ▸ rfl)
      else isFalse fun e => hv (e ▸ rfl)
    else isFalse fun e => hp (e ▸ rfl)
  else isFalse fun e => hr (e ▸ rfl)

/-- Every use in a signature, result first. -/
def types (s : Signature) : List TypeRef :=
  s.result :: s.parameters

end Signature

end HeaderAbi
