import HeaderAbi.Diff.Presence

/-!
# Changes of functions and global variables

`Function.changes` and `GlobalVar.changes` list what changed between two versions.  `Matching` says
what counts as two versions of one function: the same identifier, or also a name that only one
function lost and only one gained.
-/

namespace HeaderAbi

/-- One change of a function. -/
inductive FunctionChange where
  /-- A function found by name has another identifier. -/
  | signature (old new : Uid)
  | result (old new : TypeRef)
  | parameter (index : Nat) (old new : TypeRef)
  | parameterCount (old new : Nat)
  | variadic (old new : Bool)
  | convention (old new : CallingConvention)
  | linkage (old new : Linkage)
  | becameVirtual
  | noLongerVirtual
  | vtableIndex (old new : UInt32)
  | pure (old new : Bool)
  | access (old new : Access)
deriving DecidableEq, Inhabited

/-- What a change of linkage means: a symbol that disappears for others breaks them. -/
def linkageImpact (old new : Linkage) : Impact :=
  match old.isVisible, new.isVisible with
  | true, false => .breaking
  | false, true => .nonBreaking
  | _, _ => .informational

def truthWord (b : Bool) : String := if b then "true" else "false"

namespace FunctionChange

/-- A change of the function as a whole. -/
def of (impact : Impact) (detail : String) : Change := { impact, detail }

/-- The wording and the weight of a change. -/
def toChange : FunctionChange → Change
  | .signature o n => of .breaking ("signature changed: " ++ arrow o.text n.text)
  | .result o n => of .breaking ("return type " ++ arrow o.spelling n.spelling)
  | .parameter i o n => of .breaking s!"parameter {i} type {arrow o.spelling n.spelling}"
  | .parameterCount o n => of .breaking ("parameter count " ++ arrow (toString o) (toString n))
  | .variadic o n => of .breaking ("variadic " ++ arrow (truthWord o) (truthWord n))
  | .convention o n => of .breaking ("calling convention " ++ arrow o.spelling n.spelling)
  | .linkage o n => of (linkageImpact o n) ("linkage " ++ arrow o.word n.word)
  | .becameVirtual => of .breaking "became virtual"
  | .noLongerVirtual => of .breaking "no longer virtual"
  | .vtableIndex o n => of .breaking ("vtable index " ++ arrow (toString o) (toString n))
  | .pure o n => of .informational ("pure virtual " ++ arrow (truthWord o) (truthWord n))
  | .access o n => of .informational ("access " ++ arrow o.word n.word)

/-- A change, if a condition holds. -/
def when (condition : Prop) [Decidable condition] (change : FunctionChange) :
    List FunctionChange :=
  if condition then [change] else []

/-- The changes between two lists of parameters: one by one when there are as many. -/
def ofParameters (old new : List TypeRef) : List FunctionChange :=
  if old.length = new.length then
    (old.zip new).zipIdx.flatMap fun ((o, n), i) => when (o ≠ n) (.parameter i o n)
  else [.parameterCount old.length new.length]

/-- The changes between two kinds of dispatch. -/
def ofDispatch : Option Dispatch → Option Dispatch → List FunctionChange
  | none, none => []
  | none, some _ => [.becameVirtual]
  | some _, none => [.noLongerVirtual]
  | some o, some n =>
    when (o.vtableIndex ≠ n.vtableIndex) (.vtableIndex o.vtableIndex n.vtableIndex) ++
      when (o.isPure ≠ n.isPure) (.pure o.isPure n.isPure)

end FunctionChange

namespace Function

open FunctionChange in
/-- The changes between two versions of a function, its identifier apart. -/
def changes (old new : Function) : List FunctionChange :=
  when (old.result ≠ new.result) (.result old.result new.result) ++
    ofParameters old.parameters new.parameters ++
    when (old.variadic ≠ new.variadic) (.variadic old.variadic new.variadic) ++
    when (old.convention ≠ new.convention) (.convention old.convention new.convention) ++
    when (old.linkage ≠ new.linkage) (.linkage old.linkage new.linkage) ++
    ofDispatch old.dispatch new.dispatch ++
    when (old.access ≠ new.access) (.access old.access new.access)

end Function

/-- How functions of two snapshots are matched. -/
inductive Matching where
  /-- By identifier: another signature is another function. -/
  | byUid
  /-- By identifier, and what is left over by name where the name is unique on both sides. -/
  | byName
deriving DecidableEq, Inhabited

namespace Matching

def word : Matching → String
  | .byUid => "by-uid"
  | .byName => "by-name"

def all : List Matching := [.byUid, .byName]

def ofWord? (word : String) : Option Matching := all.find? (·.word == word)

def toData (m : Matching) : Data := .text m.word

def ofData? (d : Data) : Option Matching := d.asName? (all.map fun m => (m.word, m))

/-- The functions of two tables that are paired by name: each is the only one of its name that the
other table lacks.  The pairs come in the order of the new identifiers. -/
def namePairs (old new : Table Function) : List (Function × Function) :=
  let lost := old.without new
  let gained := new.without old
  let pairs := lost.filterMap fun o =>
    match lost.filter (·.name == o.name), gained.filter (·.name == o.name) with
    | [_], [n] => some (o, n)
    | _, _ => none
  pairs.mergeSort fun a b => a.2.uid.le b.2.uid

/-- The pairs that a way of matching adds to those by identifier. -/
def pairs (m : Matching) (old new : Table Function) : List (Function × Function) :=
  match m with
  | .byUid => []
  | .byName => namePairs old new

end Matching

/-- One change of a global variable. -/
inductive GlobalChange where
  | type (old new : TypeRef)
  | linkage (old new : Linkage)
deriving DecidableEq, Inhabited

namespace GlobalChange

/-- The wording and the weight of a change. -/
def toChange : GlobalChange → Change
  | .type o n => { impact := .breaking, detail := "type " ++ arrow o.spelling n.spelling }
  | .linkage o n => { impact := linkageImpact o n, detail := "linkage " ++ arrow o.word n.word }

end GlobalChange

namespace GlobalVar

/-- The changes between two versions of a variable. -/
def changes (old new : GlobalVar) : List GlobalChange :=
  (if old.type ≠ new.type then [.type old.type new.type] else []) ++
    if old.linkage ≠ new.linkage then [.linkage old.linkage new.linkage] else []

end GlobalVar

end HeaderAbi
