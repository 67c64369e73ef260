/-!
# Instants as text

An instant is a count of nanoseconds since the start of 1970, in universal time.  `rfc3339` writes
it as a date and a time of day, with as many groups of three digits after the second as are needed.
-/

namespace HeaderAbi.Calendar

/-- A date. -/
structure Date where
  year : Nat
  month : Nat
  day : Nat
deriving DecidableEq, Inhabited

/-- The date a number of days after the first of January 1970.  Years are counted from the first of
March, so that the leap day is the last one; 400 years have 146097 days. -/
def dateOfDays (days : Nat) : Date :=
  let shifted := days + 719468
  let inCycle := shifted % 146097
  let yearInCycle := (inCycle - inCycle / 1460 + inCycle / 36524 - inCycle / 146096) / 365
  let inYear := inCycle - (365 * yearInCycle + yearInCycle / 4 - yearInCycle / 100)
  let fromMarch := (5 * inYear + 2) / 153
  let month := if fromMarch < 10 then fromMarch + 3 else fromMarch - 9
  { year := 400 * (shifted / 146097) + yearInCycle + if month ≤ 2 then 1 else 0
    month
    day := inYear - (153 * fromMarch + 2) / 5 + 1 }

/-- A number with zeros before it up to a number of digits. -/
def padded (width n : Nat) : String :=
  let digits := toString n
  String.ofList (List.replicate (width - digits.length) '0') ++ digits

/-- The part of a second, in thousandths, millionths or billionths. -/
def fraction (nanoseconds : Nat) : String :=
  if nanoseconds = 0 then ""
  else if nanoseconds % 1000000 = 0 then "." ++ padded 3 (nanoseconds / 1000000)
  else if nanoseconds % 1000 = 0 then "." ++ padded 6 (nanoseconds / 1000)
  else "." ++ padded 9 nanoseconds

/-- An instant as a date and a time of day. -/
def rfc3339 (nanoseconds : Nat) : String :=
  let seconds := nanoseconds / 1000000000
  let date := dateOfDays (seconds / 86400)
  let ofDay := seconds % 86400
  s!"{padded 4 date.year}-{padded 2 date.month}-{padded 2 date.day}T" ++
    s!"{padded 2 (ofDay / 3600)}:{padded 2 (ofDay / 60 % 60)}:{padded 2 (ofDay % 60)}" ++
    fraction (nanoseconds % 1000000000) ++ "+00:00"

end HeaderAbi.Calendar
