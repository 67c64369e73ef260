import HeaderAbi.Data.Scalar

/-!
# Tables of characters

A property of characters is kept as its ranges of code points, in ascending order.  `ofLines` reads
a table from lines of hexadecimal numbers and ranges with blanks between them; `contains` searches
by halving.
-/

namespace HeaderAbi.Unicode

/-- Ascending ranges of code points, each with its first and last member. -/
structure RangeTable where
  ranges : Array (Nat × Nat)
deriving Inhabited

/-- The number that hexadecimal digits spell. -/
def hexNumber (s : String) : Nat :=
  (Data.digits? 16 s.toList).getD 0

namespace RangeTable

/-- A range `a-b`, or a single code point. -/
def rangeOfText (s : String) : Nat × Nat :=
  match s.splitOn "-" with
  | [a, b] => (hexNumber a, hexNumber b)
  | _ => (hexNumber s, hexNumber s)

def ofLines (lines : List String) : RangeTable :=
  ⟨(lines.flatMap fun l => (l.splitOn " ").map rangeOfText).toArray⟩

/-- The position of the first range between two positions that does not end before `n`. -/
def search (t : RangeTable) (n : Nat) (low high : Nat) : Nat :=
  if _h : low < high then
    let middle := (low + high) / 2
    match t.ranges[middle]? with
    | some (_, last) =>
      if last < n then search t n (middle + 1) high else search t n low middle
    | none => high
  else low
termination_by high - low

/-- A code point lies in some range. -/
def contains (t : RangeTable) (n : Nat) : Bool :=
  match t.ranges[t.search n 0 t.ranges.size]? with
  | some (first, _) => first ≤ n
  | none => false

end RangeTable

end HeaderAbi.Unicode
