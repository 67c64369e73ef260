import HeaderAbi.Data.Scalar

/-!
# Reading typed values out of data

Each reader answers `none` when the data has the wrong shape.  Records are read field by field:
a `required` field must be there, a `defaulted` one may be missing but must be well formed when
present, an `optional` one may also be null.  Unknown fields are passed over; a field given twice is
an error.  A JSON list is a record too: its items are the fields in their order, and those behind its
end are missing (`fieldsOf?`).
-/

namespace HeaderAbi.Data

/-- The fields of a record under construction. -/
abbrev Fields := List (String × Data)

def asBool? : Data → Option Bool
  | .bool b => some b
  | .plain s => truthWord? s
  | .tagged _ d => d.asBool?
  | _ => none

/-- A text.  An unquoted scalar is a text when one is asked for. -/
def asText? : Data → Option String
  | .text s => some s
  | .plain s => some s
  | .tagged _ d => d.asText?
  | _ => none

def asInt? : Data → Option Int
  | .int n => some n
  | .plain s => integer? s
  | .tagged _ d => d.asInt?
  | _ => none

/-- A natural number.  An unquoted scalar must be written without a minus sign. -/
def asNat? : Data → Option Nat
  | .int n => if 0 ≤ n then some n.toNat else none
  | .plain s => unsigned? s.toList
  | .tagged _ d => d.asNat?
  | _ => none

/-- An unsigned integer of 64 bits. -/
def asUInt64? (d : Data) : Option UInt64 := do
  let n ← d.asNat?
  if n < 0x10000000000000000 then some (UInt64.ofNat n) else none

/-- An unsigned integer of 32 bits. -/
def asUInt32? (d : Data) : Option UInt32 := do
  let n ← d.asNat?
  if n < 0x100000000 then some (UInt32.ofNat n) else none

/-- A signed integer of 64 bits. -/
def asInt64? (d : Data) : Option Int64 := do
  let n ← d.asInt?
  if -0x8000000000000000 ≤ n && n < 0x8000000000000000 then some (Int64.ofInt n) else none

/-- True for the data that stand for an absent value. -/
def isNull : Data → Bool
  | .null => true
  | .blank => true
  | .plain s => s.isEmpty || isNullWord s
  | _ => false

/-- Nothing, or a value. -/
def asOption? {α : Type} (read : Data → Option α) (d : Data) : Option (Option α) :=
  if d.isNull then some none else (read d).map some

/-- The items of a list; an empty YAML node is an empty list. -/
def items? : Data → Option (List Data)
  | .list items => some items
  | .sequence items => some items
  | .blank => some []
  | .plain s => if s.isEmpty then some [] else none
  | .tagged _ d => d.items?
  | _ => none

def asList? {α : Type} (read : Data → Option α) (d : Data) : Option (List α) := do
  (← d.items?).mapM read

/-- The fields of a record that names them; an empty YAML node is a record without fields. -/
def fields? : Data → Option Fields
  | .object fields => some fields
  | .mapping entries => entries.mapM fun (k, d) => (k.asText?).map (·, d)
  | .blank => some []
  | .plain s => if s.isEmpty then some [] else none
  | .tagged _ d => d.fields?
  | _ => none

/-- The fields of a record whose fields have the given names, in that order.  A list may end before
the last of them, not go on behind it. -/
def fieldsOf? (names : List String) : Data → Option Fields
  | .list items => if items.length ≤ names.length then some (names.zip items) else none
  | d => d.fields?

/-- The name of a variant and what it carries.  A bare name carries nothing; otherwise the name is
the only key of an object, or a tag. -/
def variant? : Data → Option (String × Option Data)
  | .text s => some (s, none)
  | .plain s => some (s, none)
  | .object [(name, content)] => some (name, some content)
  | .tagged tag content => some (tag, some content)
  | _ => none

/-- The name of a variant that carries nothing. -/
def unitVariant? (d : Data) : Option String := do
  match ← d.variant? with
  | (name, none) => some name
  | (name, some content) => if content.isNull then some name else none

/-- Read a variant that carries nothing out of a table of names. -/
def asName? {α : Type} (names : List (String × α)) (d : Data) : Option α := do
  let name ← d.unitVariant?
  (names.find? (·.1 == name)).map (·.2)

/-- A field that must be there, unless its reader accepts null. -/
def required {α : Type} (fields : Fields) (key : String) (read : Data → Option α) : Option α :=
  match fields.filter (·.1 == key) with
  | [(_, d)] => read d
  | _ => none

/-- A field that takes a given value when it is missing. -/
def defaulted {α : Type} (fields : Fields) (key : String) (read : Data → Option α) (absent : α) :
    Option α :=
  match fields.filter (·.1 == key) with
  | [] => some absent
  | [(_, d)] => read d
  | _ => none

/-- A field that may be missing or null. -/
def optional {α : Type} (fields : Fields) (key : String) (read : Data → Option α) :
    Option (Option α) :=
  defaulted fields key (asOption? read) none

/-- A list that is empty when it is missing. -/
def listed {α : Type} (fields : Fields) (key : String) (read : Data → Option α) :
    Option (List α) :=
  defaulted fields key (asList? read) []

def flag (fields : Fields) (key : String) : Option Bool :=
  defaulted fields key asBool? false

end HeaderAbi.Data
