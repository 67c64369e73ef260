/-!
# Self-describing data

`Data` is what a dump, a facts file or a settings file holds before it is known to describe a
snapshot.  JSON and YAML texts are read into it, and every entity has a form in it, so both text
formats share one description of each entity.

The two formats agree on most values.  Where they differ, the difference is a constructor: `blank`
is the empty YAML node, which stands for a missing list or record as well as for nothing; `plain` is
an unquoted YAML scalar whose type is decided by the reader that asks for it; `sequence` is a YAML
list, which unlike a JSON list never stands for a record; `tagged` is a variant named by a tag;
`mapping` has keys of any shape.
-/

namespace HeaderAbi

/-- A tree of values as a text format carries them. -/
inductive Data where
  | null
  /-- A YAML node without content. -/
  | blank
  | bool (value : Bool)
  | int (value : Int)
  /-- A number that is no integer, as written. -/
  | float (written : String)
  | text (value : String)
  /-- An unquoted YAML scalar that has not been given a type. -/
  | plain (value : String)
  /-- A list, or the fields of a record in their order. -/
  | list (items : List Data)
  /-- A list in YAML. -/
  | sequence (items : List Data)
  /-- A record or map whose keys are texts. -/
  | object (fields : List (String × Data))
  /-- A map whose keys may be any data. -/
  | mapping (entries : List (Data × Data))
  /-- A value marked with the name of its variant. -/
  | tagged (tag : String) (content : Data)
deriving Inhabited

namespace Data

mutual

/-- The number of levels of nesting below and including this value. -/
def depth : Data → Nat
  | .list items => depthList items + 1
  | .sequence items => depthList items + 1
  | .object fields => depthFields fields + 1
  | .mapping entries => depthEntries entries + 1
  | .tagged _ content => content.depth + 1
  | _ => 0

def depthList : List Data → Nat
  | [] => 0
  | d :: ds => max d.depth (depthList ds)

def depthFields : List (String × Data) → Nat
  | [] => 0
  | (_, d) :: fs => max d.depth (depthFields fs)

def depthEntries : List (Data × Data) → Nat
  | [] => 0
  | (k, d) :: es => max k.depth (max d.depth (depthEntries es))

end

mutual

/-- Equality of trees. -/
def same : Data → Data → Bool
  | .null, .null => true
  | .blank, .blank => true
  | .bool a, .bool b => a == b
  | .int a, .int b => a == b
  | .float a, .float b => a == b
  | .text a, .text b => a == b
  | .plain a, .plain b => a == b
  | .list a, .list b => sameList a b
  | .sequence a, .sequence b => sameList a b
  | .object a, .object b => sameFields a b
  | .mapping a, .mapping b => sameEntries a b
  | .tagged s a, .tagged t b => s == t && a.same b
  | _, _ => false

def sameList : List Data → List Data → Bool
  | [], [] => true
  | a :: as, b :: bs => a.same b && sameList as bs
  | _, _ => false

def sameFields : List (String × Data) → List (String × Data) → Bool
  | [], [] => true
  | (s, a) :: as, (t, b) :: bs => s == t && a.same b && sameFields as bs
  | _, _ => false

def sameEntries : List (Data × Data) → List (Data × Data) → Bool
  | [], [] => true
  | (s, a) :: as, (t, b) :: bs => s.same t && a.same b && sameEntries as bs
  | _, _ => false

end

instance : BEq Data := ⟨same⟩

/-- Put a field into an object: a key that is there keeps its place and takes the new value. -/
def putField (fields : List (String × Data)) (key : String) (value : Data) :
    List (String × Data) :=
  match fields with
  | [] => [(key, value)]
  | (k, v) :: rest => if k == key then (key, value) :: rest else (k, v) :: putField rest key value

/-- An integer, from a count of bits or of slots. -/
def ofUInt64 (n : UInt64) : Data := .int n.toNat

def ofUInt32 (n : UInt32) : Data := .int n.toNat

/-- Nothing, or the form of a value. -/
def ofOption {α : Type} (form : α → Data) : Option α → Data
  | none => .null
  | some a => form a

def ofList {α : Type} (form : α → Data) (items : List α) : Data :=
  .list (items.map form)

end Data

end HeaderAbi
