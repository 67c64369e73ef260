import HeaderAbi.Data.Basic

/-!
# Types of unquoted scalars

An unquoted YAML scalar is nothing, a truth value, an integer, a float or a text, in that order of
preference.  `Data.resolve?` gives each scalar of a tree its type.  Leading zeros make a run of
digits a text, so that version numbers and serial numbers survive.
-/

namespace HeaderAbi.Data

/-- The words that stand for nothing. -/
def isNullWord (s : String) : Bool :=
  s == "null" || s == "Null" || s == "NULL" || s == "~"

/-- The words that stand for a truth value. -/
def truthWord? (s : String) : Option Bool :=
  if s == "true" || s == "True" || s == "TRUE" then some true
  else if s == "false" || s == "False" || s == "FALSE" then some false
  else none

/-- The value of a digit in a base of at most sixteen. -/
def digit? (base : Nat) (c : Char) : Option Nat :=
  let n := c.toNat
  let value :=
    if 48 ≤ n && n ≤ 57 then n - 48
    else if 97 ≤ n && n ≤ 102 then n - 87
    else if 65 ≤ n && n ≤ 70 then n - 55
    else base
  if value < base then some value else none

/-- The number a nonempty run of digits spells. -/
def digits? (base : Nat) (cs : List Char) : Option Nat :=
  if cs.isEmpty then none
  else cs.foldlM (fun acc c => (digit? base c).map (acc * base + ·)) 0

/-- Leading zeros before further digits, after an optional sign. -/
def isZeroPadded (s : List Char) : Bool :=
  let body := match s with
    | '-' :: r => r
    | '+' :: r => r
    | r => r
  match body with
  | '0' :: r => !r.isEmpty && r.all Char.isDigit
  | _ => false

/-- An unsigned number: decimal, or after `0x`, `0o` or `0b` in that base; a plus sign may lead. -/
def unsigned? (s : List Char) : Option Nat :=
  let body := match s with
    | '+' :: r => r
    | r => r
  match body with
  | '0' :: 'x' :: r => digits? 16 r
  | '0' :: 'o' :: r => digits? 8 r
  | '0' :: 'b' :: r => digits? 2 r
  | _ => if isZeroPadded s then none else digits? 10 body

/-- A number with a minus sign. -/
def negative? (s : List Char) : Option Int :=
  match s with
  | '-' :: '0' :: 'x' :: r => (digits? 16 r).map fun n => -(Int.ofNat n)
  | '-' :: '0' :: 'o' :: r => (digits? 8 r).map fun n => -(Int.ofNat n)
  | '-' :: '0' :: 'b' :: r => (digits? 2 r).map fun n => -(Int.ofNat n)
  | '-' :: r => if isZeroPadded s then none else (digits? 10 r).map fun n => -(Int.ofNat n)
  | _ => none

/-- The integer an unquoted scalar spells, of any size. -/
def integer? (s : String) : Option Int :=
  match unsigned? s.toList with
  | some n => some (Int.ofNat n)
  | none => negative? s.toList

/-- An exponent: nothing, or `e` with an optional sign and digits. -/
def isExponent (cs : List Char) : Bool :=
  match cs with
  | [] => true
  | e :: r =>
    (e == 'e' || e == 'E') &&
      (let body := match r with
        | '-' :: t => t
        | '+' :: t => t
        | t => t
       !body.isEmpty && body.all Char.isDigit)

/-- The decimal notation of a float: digits with at most one point, at least one digit, and an
optional exponent. -/
def isDecimal (cs : List Char) : Bool :=
  let whole := cs.takeWhile Char.isDigit
  match cs.dropWhile Char.isDigit with
  | '.' :: r =>
    let fraction := r.takeWhile Char.isDigit
    !(whole.isEmpty && fraction.isEmpty) && isExponent (r.dropWhile Char.isDigit)
  | r => !whole.isEmpty && isExponent r

/-- Digits and power of ten of a decimal notation. -/
def decimalParts (cs : List Char) : Nat × Int :=
  let number (ds : List Char) : Nat := (digits? 10 ds).getD 0
  let whole := cs.takeWhile Char.isDigit
  let rest := cs.dropWhile Char.isDigit
  let (fraction, rest) := match rest with
    | '.' :: r => (r.takeWhile Char.isDigit, r.dropWhile Char.isDigit)
    | r => ([], r)
  let exponent : Int := match rest with
    | _ :: '-' :: ds => -(Int.ofNat (number ds))
    | _ :: '+' :: ds => Int.ofNat (number ds)
    | _ :: ds => Int.ofNat (number ds)
    | [] => 0
  (number (whole ++ fraction), exponent - fraction.length)

/-- The least number that a double rounds to infinity: half a unit above the greatest double. -/
def doubleLimit : Nat := Nat.pow 2 1024 - Nat.pow 2 970

/-- True when a decimal notation lies beyond the doubles.  The power of ten is first compared with
the number of digits, so that no huge power is computed. -/
def overflowsDouble (cs : List Char) : Bool :=
  let (digits, exponent) := decimalParts cs
  if digits == 0 then false
  else
    let magnitude : Int := (Nat.toDigits 10 digits).length + exponent
    if magnitude > 310 then true
    else if magnitude < 300 then false
    else if exponent ≥ 0 then digits * Nat.pow 10 exponent.toNat ≥ doubleLimit
    else digits ≥ doubleLimit * Nat.pow 10 (-exponent).toNat

/-- True for the unquoted scalars that spell a float. -/
def isFloatWord (s : String) : Bool :=
  let cs := s.toList
  let unsigned := match cs with
    | '+' :: r => r
    | r => r
  let startsSigned := match unsigned with
    | '+' :: _ => true
    | '-' :: _ => true
    | _ => false
  if cs.head? == some '+' && startsSigned then false
  else if [".inf", ".Inf", ".INF"].contains (String.ofList unsigned) then true
  else if ["-.inf", "-.Inf", "-.INF", ".nan", ".NaN", ".NAN"].contains s then true
  else
    let body := match unsigned with
      | '-' :: r => r
      | r => r
    isDecimal body && !overflowsDouble body

/-- The typed value of an unquoted scalar.  Integers between 64 and 128 bits have no type here and
are refused; longer ones are floats. -/
def ofPlain? (s : String) : Option Data :=
  if s.isEmpty || isNullWord s then some .blank
  else match truthWord? s with
    | some b => some (.bool b)
    | none =>
      match integer? s with
      | some n =>
        if -0x8000000000000000 ≤ n && n < 0x10000000000000000 then some (.int n)
        else if -0x80000000000000000000000000000000 ≤ n &&
            n < 0x100000000000000000000000000000000 then none
        else if isFloatWord s then some (.float s)
        else some (.text s)
      | none =>
        if isZeroPadded s.toList then some (.text s)
        else if isFloatWord s then some (.float s)
        else some (.text s)

mutual

/-- Give every unquoted scalar of a tree its type; a map with two equal keys is refused. -/
def resolve? : Data → Option Data
  | .plain s => ofPlain? s
  | .list items => (resolveList? items).map .list
  | .sequence items => (resolveList? items).map .sequence
  | .object fields => (resolveFields? fields).map .object
  | .mapping entries => do
    let resolved ← resolveEntries? entries
    if hasRepeatedKey resolved then none else some (.mapping resolved)
  | .tagged tag content => (resolve? content).map (.tagged tag)
  | d => some d

def resolveList? : List Data → Option (List Data)
  | [] => some []
  | d :: ds => do return (← resolve? d) :: (← resolveList? ds)

def resolveFields? : List (String × Data) → Option (List (String × Data))
  | [] => some []
  | (k, d) :: fs => do return (k, ← resolve? d) :: (← resolveFields? fs)

def resolveEntries? : List (Data × Data) → Option (List (Data × Data))
  | [] => some []
  | (k, d) :: es => do return (← resolve? k, ← resolve? d) :: (← resolveEntries? es)

/-- Two entries of a map have equal keys. -/
def hasRepeatedKey : List (Data × Data) → Bool
  | [] => false
  | (k, _) :: es => es.any (·.1.same k) || hasRepeatedKey es

end

end HeaderAbi.Data
