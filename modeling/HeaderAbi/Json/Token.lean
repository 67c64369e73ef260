import HeaderAbi.Data.Scalar

/-!
# The words of JSON

A JSON text is a sequence of words: brackets, commas, colons, quoted texts, numbers and the three
literals.  `lex?` reads a text one character at a time; `LexState` says what kind of word the
character falls into.  A number or literal ends at the first character that cannot belong to it, and
is judged as a whole.
-/

namespace HeaderAbi.Json

/-- A word of a JSON text. -/
inductive Token where
  | openList
  | closeList
  | openObject
  | closeObject
  | comma
  | colon
  | text (value : String)
  /-- A number or one of `true`, `false` and `null`. -/
  | atom (value : Data)

/-- What the reader is in the middle of. -/
inductive LexState where
  | ready
  /-- Inside a quoted text; the characters so far, last first. -/
  | quoted (done : List Char)
  /-- After a backslash inside a quoted text. -/
  | escaped (done : List Char)
  /-- Inside `\u`: the value of the digits read so far and how many are missing.  `high` is the
  high surrogate that the unit must complete. -/
  | unit (done : List Char) (high : Option Nat) (value : Nat) (missing : Nat)
  /-- After a high surrogate: its partner must follow. -/
  | pairing (done : List Char) (high : Nat)
  | pairingEscape (done : List Char) (high : Nat)
  /-- Inside a number; the characters so far, last first. -/
  | number (done : List Char)
  /-- Inside a literal; the characters so far, last first. -/
  | literal (done : List Char)

/-- The four blanks that may stand between words. -/
def isBlank (c : Char) : Bool :=
  c == ' ' || c == '\t' || c == '\n' || c == '\x0d'

def isNumberChar (c : Char) : Bool :=
  c.isDigit || c == '-' || c == '+' || c == '.' || c == 'e' || c == 'E'

/-- The whole part of a number has no leading zero, and a point stands between digits. -/
def isNumber (cs : List Char) : Bool :=
  let body := match cs with
    | '-' :: r => r
    | r => r
  let whole := body.takeWhile Char.isDigit
  let rest := body.dropWhile Char.isDigit
  let wholeOk := match whole with
    | [] => false
    | '0' :: r => r.isEmpty
    | _ => true
  let restOk := match rest with
    | '.' :: r => !(r.takeWhile Char.isDigit).isEmpty && Data.isExponent (r.dropWhile Char.isDigit)
    | r => Data.isExponent r
  wholeOk && restOk

/-- The value of a number.  A number written without point and exponent is an integer if it fits 64
bits, signed or unsigned; minus zero and everything else is a float, which must not overflow. -/
def number? (cs : List Char) : Option Data :=
  let negative := cs.head? == some '-'
  let body := if negative then cs.drop 1 else cs
  if !isNumber cs then none
  else if body.all Char.isDigit then
    let n := (Data.digits? 10 body).getD 0
    if negative then
      if 0 < n && n ≤ 0x8000000000000000 then some (.int (-(Int.ofNat n)))
      else if Data.overflowsDouble body then none
      else some (.float (String.ofList cs))
    else if n < 0x10000000000000000 then some (.int (Int.ofNat n))
    else if Data.overflowsDouble body then none
    else some (.float (String.ofList cs))
  else if Data.overflowsDouble body then none
  else some (.float (String.ofList cs))

def literal? (cs : List Char) : Option Data :=
  match String.ofList cs with
  | "true" => some (.bool true)
  | "false" => some (.bool false)
  | "null" => some .null
  | _ => none

/-- The single-character words. -/
def punctuation? (c : Char) : Option Token :=
  match c with
  | '[' => some .openList
  | ']' => some .closeList
  | '{' => some .openObject
  | '}' => some .closeObject
  | ',' => some .comma
  | ':' => some .colon
  | _ => none

/-- The character a one-letter escape stands for. -/
def simpleEscape? (c : Char) : Option Char :=
  match c with
  | '"' => some '"'
  | '\\' => some '\\'
  | '/' => some '/'
  | 'b' => some '\x08'
  | 'f' => some '\x0c'
  | 'n' => some '\n'
  | 'r' => some '\x0d'
  | 't' => some '\t'
  | _ => none

/-- What follows a finished unit of four digits: a character, or a wait for the second surrogate. -/
def afterUnit? (done : List Char) (high : Option Nat) (value : Nat) : Option LexState :=
  match high with
  | some h =>
    if 0xDC00 ≤ value && value ≤ 0xDFFF then
      some (.quoted (Char.ofNat (0x10000 + (h - 0xD800) * 0x400 + (value - 0xDC00)) :: done))
    else none
  | none =>
    if 0xD800 ≤ value && value ≤ 0xDBFF then some (.pairing done value)
    else if 0xDC00 ≤ value && value ≤ 0xDFFF then none
    else some (.quoted (Char.ofNat value :: done))

/-- Read a character between words. -/
def readyStep? (c : Char) : Option (LexState × List Token) :=
  if isBlank c then some (.ready, [])
  else match punctuation? c with
    | some t => some (.ready, [t])
    | none =>
      if c == '"' then some (.quoted [], [])
      else if c == '-' || c.isDigit then some (.number [c], [])
      else if c.isLower then some (.literal [c], [])
      else none

/-- Read one character: the new state and the words that it completes. -/
def step? (state : LexState) (c : Char) : Option (LexState × List Token) :=
  match state with
  | .ready => readyStep? c
  | .quoted done =>
    if c == '"' then some (.ready, [.text (String.ofList done.reverse)])
    else if c == '\\' then some (.escaped done, [])
    else if c.toNat < 0x20 then none
    else some (.quoted (c :: done), [])
  | .escaped done =>
    if c == 'u' then some (.unit done none 0 4, [])
    else (simpleEscape? c).map fun e => (.quoted (e :: done), [])
  | .unit done high value missing => do
    let d ← Data.digit? 16 c
    let value := value * 16 + d
    if missing ≤ 1 then
      let next ← afterUnit? done high value
      some (next, [])
    else some (.unit done high value (missing - 1), [])
  | .pairing done high => if c == '\\' then some (.pairingEscape done high, []) else none
  | .pairingEscape done high => if c == 'u' then some (.unit done (some high) 0 4, []) else none
  | .number done =>
    if isNumberChar c then some (.number (c :: done), [])
    else do
      let d ← number? done.reverse
      let (next, words) ← readyStep? c
      some (next, .atom d :: words)
  | .literal done =>
    if c.isLower then some (.literal (c :: done), [])
    else do
      let d ← literal? done.reverse
      let (next, words) ← readyStep? c
      some (next, .atom d :: words)

/-- The words completed by the end of the text. -/
def finish? : LexState → Option (List Token)
  | .ready => some []
  | .number done => (number? done.reverse).map fun d => [.atom d]
  | .literal done => (literal? done.reverse).map fun d => [.atom d]
  | _ => none

/-- The words of the characters that follow a state, after those found before, last first. -/
def lexFrom? (state : LexState) (found : List Token) : List Char → Option (List Token)
  | [] => (finish? state).map fun words => found.reverse ++ words
  | c :: cs =>
    match step? state c with
    | none => none
    | some (next, words) => lexFrom? next (words.reverse ++ found) cs

/-- The words of a text. -/
def lex? (s : String) : Option (List Token) :=
  lexFrom? .ready [] s.toList

end HeaderAbi.Json
