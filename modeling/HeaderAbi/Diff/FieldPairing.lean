import HeaderAbi.Entity.Record

/-!
# Pairing of fields

Which field of a record became which.  Fields pair by name; of several fields with one name, those
at equal offsets pair first and the rest in the order of declaration.  What is left over pairs as
renamed when offset, width and type agree.
-/

namespace HeaderAbi

/-- A field with its place among the fields of its record. -/
structure Placed where
  index : Nat
  field : Field
deriving DecidableEq, Inhabited

/-- The old and new fields after pairing. -/
structure FieldPairing where
  matched : List (Placed × Placed) := []
  removed : List Placed := []
  added : List Placed := []
deriving DecidableEq, Inhabited

namespace FieldPairing

/-- Take the first item that satisfies a test out of a list. -/
def takeFirst {α : Type} (test : α → Bool) : List α → Option (α × List α)
  | [] => none
  | a :: as => if test a then some (a, as) else (takeFirst test as).map fun (b, bs) => (b, a :: bs)

/-- Pair items in order, each with the first partner that suits it and is still free.  Answers the
pairs, the items without partner and the partners left over. -/
def pairFirst {α β : Type} (suits : α → β → Bool) : List α → List β →
    List (α × β) × List α × List β
  | [], bs => ([], [], bs)
  | a :: as, bs =>
    match takeFirst (suits a) bs with
    | some (b, bs) =>
      let (pairs, alone, free) := pairFirst suits as bs
      ((a, b) :: pairs, alone, free)
    | none =>
      let (pairs, alone, free) := pairFirst suits as bs
      (pairs, a :: alone, free)

/-- Pair the fields of one name: equal offsets first, then in order. -/
def ofGroup (old new : List Placed) : FieldPairing :=
  let (atOffset, old, new) :=
    pairFirst (fun o n => n.field.offsetBits == o.field.offsetBits) old new
  { matched := atOffset ++ old.zip new
    removed := old.drop new.length
    added := new.drop old.length }

/-- The fields with their places. -/
def place (fields : List Field) : List Placed :=
  fields.zipIdx.map fun (f, i) => ⟨i, f⟩

/-- Pair the fields of two records by name.  The fields that have an old one keep the order of the
old record, those that are new the order of the new one. -/
def ofFields (old new : List Field) : FieldPairing :=
  let names := ((old ++ new).map (·.name)).eraseDups
  let groups := names.map fun name =>
    ofGroup ((place old).filter (·.field.name == name)) ((place new).filter (·.field.name == name))
  { matched := (groups.flatMap (·.matched)).mergeSort fun a b => a.1.index ≤ b.1.index
    removed := (groups.flatMap (·.removed)).mergeSort fun a b => a.index ≤ b.index
    added := (groups.flatMap (·.added)).mergeSort fun a b => a.index ≤ b.index }

/-- A new field looks like an old one under another name. -/
def isRenaming (old new : Placed) : Bool :=
  new.field.offsetBits == old.field.offsetBits && new.field.bitWidth == old.field.bitWidth &&
    new.field.type == old.field.type

/-- The renamed fields, those that are gone and those that are new. -/
def renamings (p : FieldPairing) : List (Placed × Placed) × List Placed × List Placed :=
  pairFirst isRenaming p.removed p.added

end FieldPairing

end HeaderAbi
