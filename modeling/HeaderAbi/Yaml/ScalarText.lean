import HeaderAbi.Data.Scalar
import HeaderAbi.Json.Printer
import HeaderAbi.Yaml.Place

/-!
# Writing YAML scalars

A text is written in the plainest of four styles that reads back as the same text.

* Plain, unless it would be read as something else (`readsAsOther`) or its characters stand in the
  way (`isPlainSafe`).
* In single quotes, unless a character cannot be written as it is or a blank touches a line break.
* As a literal block, when it has line feeds and no line ends with a blank.
* In double quotes, with escapes, which is always possible.
-/

namespace HeaderAbi.Yaml

/-- The characters that are written as they are. -/
def isPrintable (c : Char) : Bool :=
  let n := c.toNat
  n == 0x0A || (0x20 ≤ n && n ≤ 0x7E) || (0xA0 ≤ n && n ≤ 0xD7FF) ||
    (0xE000 ≤ n && n ≤ 0xFFFD && n ≠ 0xFEFF) || 0x10000 ≤ n

/-- Some neighbouring characters of a text satisfy a test. -/
def hasPair (test : Char → Char → Bool) : List Char → Bool
  | a :: b :: rest => test a b || hasPair test (b :: rest)
  | _ => false

/-- A plain text must not start like another kind of node. -/
def startsLikeNode (cs : List Char) : Bool :=
  match cs with
  | '-' :: '-' :: '-' :: _ => true
  | '.' :: '.' :: '.' :: _ => true
  | c :: rest =>
    "#,[]\x7b\x7d&*!|>'\"%@\x60".toList.contains c ||
      ((c == '?' || c == ':' || c == '-') && (atBlank rest || rest.head? == some '\x00'))
  | [] => false

/-- A colon before a blank, or a hash after one, ends a plain text. -/
def endsEarly (cs : List Char) : Bool :=
  let blank (c : Char) : Bool := isBlank c || isBreak c || c == '\x00'
  hasPair (fun a b => (a == ':' && blank b) || (blank a && b == '#')) cs ||
    cs.getLast? == some ':'

/-- The characters of a text allow it to stand without quotes. -/
def isPlainSafe (cs : List Char) : Bool :=
  !startsLikeNode cs && !endsEarly cs && cs.all (fun c => isPrintable c && !isBreak c) &&
    cs.head? ≠ some ' ' && cs.getLast? ≠ some ' '

/-- The characters of a text allow it to stand in single quotes. -/
def isSingleSafe (cs : List Char) : Bool :=
  cs.all isPrintable &&
    !hasPair (fun a b => (isBreak a && b == ' ') || (a == ' ' && isBreak b)) cs

/-- The characters of a text allow it to be written as a literal block. -/
def isBlockSafe (cs : List Char) : Bool :=
  cs.all isPrintable && !hasPair (fun a b => a == ' ' && isBreak b) cs && cs.getLast? ≠ some ' '

/-- Without quotes, the text would not be read as a text, or looks like a padded number. -/
def readsAsOther (s : String) : Bool :=
  match Data.ofPlain? s with
  | some (.text _) => Data.isZeroPadded s.toList
  | _ => true

def spaces (n : Nat) : List Char :=
  List.replicate n ' '

/-- Characters in single quotes.  After a line break the indentation is filled up. -/
def singleQuoted (indent : Nat) (afterBreak : Bool) : List Char → List Char
  | [] => if afterBreak then spaces indent else []
  | c :: cs =>
    if isBreak c then c :: singleQuoted indent true cs
    else if c == ' ' then c :: singleQuoted indent afterBreak cs
    else
      (if afterBreak then spaces indent else []) ++ (if c == '\'' then ['\'', '\''] else [c]) ++
        singleQuoted indent false cs

/-- Upper-case hexadecimal digits, a given number of them. -/
def hexDigits : Nat → Nat → List Char
  | 0, _ => []
  | width + 1, n => hexDigits width (n / 16) ++ [(Json.hexDigit (n % 16)).toUpper]

/-- A character in double quotes. -/
def doubleChar (c : Char) : List Char :=
  if c == '"' then ['\\', '"']
  else if c == '\\' then ['\\', '\\']
  else if isPrintable c && !isBreak c then [c]
  else match c with
    | '\x00' => ['\\', '0']
    | '\x07' => ['\\', 'a']
    | '\x08' => ['\\', 'b']
    | '\t' => ['\\', 't']
    | '\n' => ['\\', 'n']
    | '\x0b' => ['\\', 'v']
    | '\x0c' => ['\\', 'f']
    | '\x0d' => ['\\', 'r']
    | '\x1b' => ['\\', 'e']
    | '\u0085' => ['\\', 'N']
    | '\u2028' => ['\\', 'L']
    | '\u2029' => ['\\', 'P']
    | c =>
      let n := c.toNat
      if n ≤ 0xFF then ['\\', 'x'] ++ hexDigits 2 n
      else if n ≤ 0xFFFF then ['\\', 'u'] ++ hexDigits 4 n
      else ['\\', 'U'] ++ hexDigits 8 n

/-- The lines of a literal block, each nonempty one indented. -/
def literalLines (indent : Nat) (afterBreak : Bool) : List Char → List Char
  | [] => []
  | c :: cs =>
    if isBreak c then c :: literalLines indent true cs
    else (if afterBreak then spaces indent else []) ++ c :: literalLines indent false cs

/-- What follows the bar of a literal block: the indentation if the text starts with a blank or a
break, and what becomes of the breaks at its end. -/
def literalHints (cs : List Char) : List Char :=
  let start := match cs with
    | c :: _ => if c == ' ' || isBreak c then ['2'] else []
    | [] => []
  let ending := match cs.reverse with
    | a :: b :: _ => if !isBreak a then ['-'] else if isBreak b then ['+'] else []
    | [a] => if isBreak a then ['+'] else ['-']
    | [] => ['-']
  start ++ ending

/-- A text as a scalar; `indent` is the indentation of its further lines. -/
def scalarText (indent : Nat) (s : String) : String :=
  let cs := s.toList
  let double := "\"" ++ String.ofList (cs.flatMap doubleChar) ++ "\""
  if cs.contains '\n' then
    if isBlockSafe cs then
      "|" ++ String.ofList (literalHints cs) ++ "\n" ++
        String.ofList (literalLines indent true cs)
    else double
  else if !readsAsOther s && isPlainSafe cs then s
  else if isSingleSafe cs then "'" ++ String.ofList (singleQuoted indent false cs) ++ "'"
  else double

end HeaderAbi.Yaml
