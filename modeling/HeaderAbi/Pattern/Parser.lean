import HeaderAbi.Pattern.Basic

/-!
# Reading patterns

`Pattern.parse?` reads the usual notation of regular expressions, without look-around and
back-references: alternatives, repetition, groups, sets in brackets with nesting and set operations,
properties of characters, positions, and flags.  Flags hold from where they stand to the end of the
group around them.
-/

namespace HeaderAbi.Pattern

/-- The flags that change how a pattern reads. -/
structure Flags where
  ignoreCase : Bool := false
  multiLine : Bool := false
  dotMatchesBreak : Bool := false
  unicode : Bool := true
  crlf : Bool := false
  /-- Blanks and comments in the pattern are passed over. -/
  verbose : Bool := false
deriving DecidableEq, Inhabited

/-- The reader of a pattern between two characters. -/
structure Progress where
  rest : List Char
  flags : Flags := {}
  /-- The names of groups so far. -/
  names : List String := []

/-- A step of reading. -/
abbrev Reading := StateT Progress Option

namespace Reading

/-- The characters without blanks and comments in front. -/
def withoutComments : List Char → Nat → List Char
  | cs, 0 => cs
  | cs, fuel + 1 =>
    match cs.dropWhile Text.isBlank with
    | '#' :: rest => withoutComments (rest.dropWhile (· != '\n')) fuel
    | cs => cs

/-- Pass over blanks and comments, where flags allow them. -/
def skipComments : Reading Unit :=
  modify fun p =>
    if p.flags.verbose then { p with rest := withoutComments p.rest (p.rest.length + 1) } else p

def peek : Reading (Option Char) := do
  return (← get).rest.head?

/-- The next character with nothing passed over. -/
def next : Reading Char := do
  match (← get).rest with
  | c :: rest => modify fun p => { p with rest }; return c
  | [] => failure

/-- Pass over a character and what may be passed over after it. -/
def bump : Reading Unit := do
  let _ ← next
  skipComments

/-- Pass over a text if it comes next. -/
def accept (text : String) : Reading Bool := do
  let cs := text.toList
  if cs.isPrefixOf (← get).rest then
    modify fun p => { p with rest := p.rest.drop cs.length }
    return true
  return false

/-- The longest run of characters that satisfy a test. -/
def takeWhile (test : Char → Bool) : Reading (List Char) := do
  let rest := (← get).rest
  modify fun p => { p with rest := rest.dropWhile test }
  return rest.takeWhile test

/-- A character that must come next. -/
def expect (c : Char) : Reading Unit := do
  if (← next) != c then failure

end Reading

open Reading

/-! ### Characters and sets -/

/-- The characters with a meaning of their own. -/
def isMeta (c : Char) : Bool :=
  "\\.+*?()|[]\x7b\x7d^$#&-~".toList.contains c

/-- The characters that stand for themselves after a backslash. -/
def isEscapable (c : Char) : Bool :=
  isMeta c || (c.toNat < 0x80 && !c.isAlphanum && c != '<' && c != '>')

/-- What an escape or a single character stands for. -/
inductive Primitive where
  | char (c : Char)
  | set (s : CharSet)
  | position (a : Assertion)

/-- A character by its number; one that is no character is refused. -/
def charOfNumber (n : Nat) : Reading Char :=
  if n.isValidChar then return Char.ofNat n else failure

/-- The number that hexadecimal digits spell: digits in braces, or a fixed number of them. -/
def hexNumber (width : Nat) : Reading Nat := do
  let digits ← do
    if (← peek) == some '{' then
      let _ ← next
      let ds ← takeWhile (· != '}')
      expect '}'
      pure ds
    else
      let ds := (← get).rest.take width
      if ds.length < width then failure
      modify fun p => { p with rest := p.rest.drop width }
      pure ds
  match Data.digits? 16 digits with
  | some n => return n
  | none => failure

/-- The set without regard to case, if flags say so. -/
def cased (s : CharSet) : Reading CharSet := do
  let flags := (← get).flags
  return if flags.ignoreCase then .anyCase flags.unicode s else s

/-- The set that a name or `kind=value` stands for, complemented if asked; `:` may stand for `=`,
and `!=` complements once more. -/
def propertySet (name : List Char) (negated : Bool) : Reading CharSet := do
  if !(← get).flags.unicode then failure
  let text := String.ofList name
  let (set?, negated) := match text.splitOn "!=", text.splitOn ":", text.splitOn "=" with
    | kind :: value :: rest, _, _ =>
      (CharSet.valued? kind ("!=".intercalate (value :: rest)), !negated)
    | _, kind :: value :: rest, _ =>
      (CharSet.valued? kind (":".intercalate (value :: rest)), negated)
    | _, _, kind :: value :: rest =>
      (CharSet.valued? kind ("=".intercalate (value :: rest)), negated)
    | _, _, _ => (CharSet.named? text, negated)
  match set? with
  | none => failure
  | some set =>
    let set ← cased set
    return if negated then .complement set else set

/-- What follows `\p`: one letter, or a name in braces. -/
def property (negated : Bool) : Reading CharSet := do
  if (← peek) == some '{' then
    let _ ← next
    let name ← takeWhile (· != '}')
    expect '}'
    propertySet name negated
  else propertySet [← next] negated

/-- The sets named by one letter. -/
def letterSet (c : Char) : Reading CharSet := do
  let u := (← get).flags.unicode
  let base : CharSet := match c.toLower with
    | 'd' => if u then .having Property.digit else .range 0x30 0x39
    | 's' => if u then .having .blank else CharSet.ofRanges [(0x09, 0x0D), (0x20, 0x20)]
    | _ => if u then .having .word else CharSet.asciiWord
  if c.isLower then return base
  if !u then failure
  return .complement base

/-- The special word boundaries, named in braces after `\b`; nothing if braces mean a repetition. -/
def namedBoundary (u : Bool) : Reading (Option Assertion) := do
  let rest := (← get).rest
  match rest with
  | '{' :: c :: _ =>
    if c.isAlpha || c == '-' then
      let _ ← next
      let name ← takeWhile fun c => c.isAlpha || c == '-'
      expect '}'
      match String.ofList name with
      | "start" => return some (.wordStart u)
      | "end" => return some (.wordEnd u)
      | "start-half" => return some (.wordStartHalf u)
      | "end-half" => return some (.wordEndHalf u)
      | _ => failure
    else return none
  | ['{'] => failure
  | _ => return none

/-- What follows a backslash. -/
def escape : Reading Primitive := do
  let u := (← get).flags.unicode
  let c ← next
  if c == 'x' then
    -- Two digits write a byte, and only those of ASCII are characters.
    let isByte := (← peek) != some '{'
    let n ← hexNumber 2
    if isByte && !u && n ≥ 0x80 then failure
    return .char (← charOfNumber n)
  if c == 'u' then return .char (← charOfNumber (← hexNumber 4))
  if c == 'U' then return .char (← charOfNumber (← hexNumber 8))
  if c == 'p' || c == 'P' then return .set (← property (c == 'P'))
  if "dDsSwW".toList.contains c then return .set (← letterSet c)
  if isEscapable c then return .char c
  match c with
  | 'a' => return .char '\x07'
  | 'f' => return .char '\x0c'
  | 't' => return .char '\t'
  | 'n' => return .char '\n'
  | 'r' => return .char '\x0d'
  | 'v' => return .char '\x0b'
  | 'A' => return .position .textStart
  | 'z' => return .position .textEnd
  | 'b' => return .position ((← namedBoundary u).getD (.wordBoundary u))
  | 'B' => return .position (.noWordBoundary u)
  | '<' => return .position (.wordStart u)
  | '>' => return .position (.wordEnd u)
  | _ => failure

/-! ### Sets in brackets -/

/-- The set operations, which bind alike and from the left. -/
inductive SetOperation where
  | intersection
  | difference
  | symmetricDifference

namespace SetOperation

def apply : SetOperation → CharSet → CharSet → CharSet
  | .intersection, s, t => .intersection s t
  | .difference, s, t => s.difference t
  | .symmetricDifference, s, t => s.symmetricDifference t

end SetOperation

/-- A set named between colons, such as `[:alpha:]`; nothing if the bracket means something else. -/
def namedSet : Reading (Option CharSet) := do
  match (← get).rest with
  | '[' :: ':' :: body =>
    let negated := body.head? == some '^'
    let body := if negated then body.drop 1 else body
    let name := body.takeWhile (· != ':')
    match body.dropWhile (· != ':'), CharSet.asciiClass? (String.ofList name) with
    | ':' :: ']' :: rest, some s =>
      modify fun p => { p with rest }
      let s ← cased s
      return some (if negated then .complement s else s)
    | _, _ => return none
  | _ => return none

/-- One character or set inside brackets. -/
def bracketItem : Reading Primitive := do
  let c ← next
  let item ← if c == '\\' then escape else pure (.char c)
  skipComments
  return item

/-- The set of an item; a position is none. -/
def itemSet : Primitive → Reading CharSet
  | .char c => return .single c
  | .set s => return s
  | .position _ => failure

/-- An item or a range of characters.  A hyphen before a bracket or another hyphen is no range. -/
def bracketRange : Reading CharSet := do
  let first ← bracketItem
  let rest := (← get).rest
  let verbose := (← get).flags.verbose
  let after := if verbose then withoutComments (rest.drop 1) rest.length else rest.drop 1
  if rest.head? != some '-' || after.head? == some ']' || after.head? == some '-' then
    itemSet first
  else
    bump
    match first, ← bracketItem with
    | .char a, .char b => if a.toNat ≤ b.toNat then return .range a.toNat b.toNat else failure
    | _, _ => failure

/-- The operation that comes next between two sets. -/
def setOperation? : Reading (Option SetOperation) := do
  if ← accept "&&" then return some .intersection
  if ← accept "--" then return some .difference
  if ← accept "~~" then return some .symmetricDifference
  return none

mutual

/-- A set in brackets, after the opening one. -/
def bracketSet : Nat → Reading CharSet
  | 0 => failure
  | fuel + 1 => do
    skipComments
    let negated := (← peek) == some '^'
    if negated then bump
    -- Hyphens in front stand for themselves, and so does a closing bracket.
    let hyphens ← takeWhile (· == '-')
    skipComments
    let start : CharSet ←
      if !hyphens.isEmpty then pure (.single '-')
      else if (← peek) == some ']' then do bump; pure (.single ']')
      else pure .none
    let body ← bracketBody none start fuel
    let body ← cased body
    if !(← get).flags.unicode && (negated || !body.isAscii) then failure
    return if negated then .complement body else body

/-- The rest of a set: `left` is what stands before the last operation, `found` what has been found
since. -/
def bracketBody (left : Option (CharSet × SetOperation)) (found : CharSet) :
    Nat → Reading CharSet
  | 0 => failure
  | fuel + 1 => do
    let combined : Reading CharSet := do
      let found ← cased found
      return match left with
        | some (s, op) => op.apply s found
        | none => found
    skipComments
    match ← peek with
    | none => failure
    | some ']' =>
      let _ ← next
      combined
    | some '[' =>
      match ← namedSet with
      | some s => bracketBody left (.union found s) fuel
      | none =>
        let _ ← next
        let inner ← bracketSet fuel
        bracketBody left (.union found inner) fuel
    | some _ =>
      match ← setOperation? with
      | some op => bracketBody (some (← combined, op)) .none fuel
      | none => bracketBody left (.union found (← bracketRange)) fuel

end

/-! ### Repetition -/

/-- A number of repetitions; it fits 32 bits. -/
def repetitionCount : Reading Nat := do
  let _ ← takeWhile Text.isBlank
  let ds ← takeWhile Char.isDigit
  let _ ← takeWhile Text.isBlank
  match Data.digits? 10 ds with
  | some n => if n < 0x100000000 then return n else failure
  | none => failure

/-- Bounds in braces, after the opening one. -/
def repetitionBounds : Reading (Nat × Option Nat) := do
  let least ← repetitionCount
  match ← peek with
  | some ',' =>
    bump
    if (← peek) == some '}' then
      let _ ← next
      return (least, none)
    let most ← repetitionCount
    expect '}'
    if most < least then failure
    return (least, some most)
  | _ =>
    expect '}'
    return (least, some least)

/-- The bounds of the repetition sign that comes next, if one does.  A question mark after it only
changes which match is preferred. -/
def repetition? : Reading (Option (Nat × Option Nat)) := do
  let bounds ← match ← peek with
    | some '?' => do let _ ← next; pure (some (0, some 1))
    | some '*' => do let _ ← next; pure (some (0, none))
    | some '+' => do let _ ← next; pure (some (1, none))
    | some '{' => do bump; pure (some (← repetitionBounds))
    | _ => pure none
  if bounds.isSome then
    skipComments
    if (← peek) == some '?' then
      let _ ← next
  return bounds

/-! ### Groups -/

/-- Letters of flags up to a colon or parenthesis, which is answered too.  None may occur twice, and
a minus sign must be followed by some. -/
def flagLetters (seen : List Char) (off : Bool) (flags : Flags) : Nat → Reading (Flags × Char)
  | 0 => failure
  | fuel + 1 => do
    let c ← next
    if c == ':' || c == ')' then
      if seen.head? == some '-' then failure
      if seen.isEmpty && c == ')' then failure
      return (flags, c)
    if seen.contains c then failure
    let goOn (flags : Flags) : Reading (Flags × Char) := flagLetters (c :: seen) off flags fuel
    match c with
    | '-' => flagLetters ('-' :: seen) true flags fuel
    | 'i' => goOn { flags with ignoreCase := !off }
    | 'm' => goOn { flags with multiLine := !off }
    | 's' => goOn { flags with dotMatchesBreak := !off }
    | 'u' => goOn { flags with unicode := !off }
    | 'R' => goOn { flags with crlf := !off }
    | 'x' => goOn { flags with verbose := !off }
    | 'U' => goOn flags
    | _ => failure

/-- The name of a group, up to the closing angle bracket.  It must be new. -/
def groupName : Reading Unit := do
  let name ← takeWhile (· != '>')
  expect '>'
  let isLetter (c : Char) : Bool := Unicode.isAlphabetic c.toNat || c == '_'
  let isInner (c : Char) : Bool :=
    isLetter c || Unicode.GeneralCategory.numbers.any (·.contains c.toNat) || c == '.' ||
      c == '[' || c == ']'
  match name with
  | [] => failure
  | c :: cs =>
    if !isLetter c || !cs.all isInner || (← get).names.contains (String.ofList name) then failure
    modify fun p => { p with names := String.ofList name :: p.names }

/-- How a parenthesis goes on: `none` when it only sets flags, otherwise the flags inside. -/
def groupStart : Reading (Option Flags) := do
  let flags := (← get).flags
  skipComments
  for look in ["?=", "?!", "?<=", "?<!"] do
    if look.toList.isPrefixOf (← get).rest then failure
  if (← accept "?P<") || (← accept "?<") then
    groupName
    return some flags
  if ← accept "?" then
    let (inner, stop) ← flagLetters [] false flags ((← get).rest.length + 1)
    if stop == ')' then
      modify fun p => { p with flags := inner }
      return none
    return some inner
  return some flags

/-- The pattern of a single character, set or position. -/
def ofPrimitive : Primitive → Reading Pattern
  | .char c => do return .one (← cased (.single c))
  | .set s => return .one s
  | .position a => return .assert a

/-- The pattern of a character that is no sign, or of `.`, `^` or `$`. -/
def simple (c : Char) : Reading Pattern := do
  let flags := (← get).flags
  match c with
  | '\\' => do ofPrimitive (← escape)
  | '.' =>
    if !flags.unicode then failure
    if flags.dotMatchesBreak then return .one .all
    let breaks : CharSet :=
      if flags.crlf then .union (.single '\n') (.single '\x0d') else .single '\n'
    return .one (.complement breaks)
  | '^' => return .assert (if flags.multiLine then .lineStart flags.crlf else .textStart)
  | '$' => return .assert (if flags.multiLine then .lineEnd flags.crlf else .textEnd)
  | c => ofPrimitive (.char c)

mutual

/-- Alternatives, up to the end of the text or a closing parenthesis. -/
def alternatives : Nat → Reading Pattern
  | 0 => failure
  | fuel + 1 => do
    let p ← sequence .empty none fuel
    if ← accept "|" then
      return .either p (← alternatives fuel)
    return p

/-- The pieces of one alternative: `done` stands for those before the last one, to which a
repetition sign would apply. -/
def sequence (done : Pattern) (last : Option Pattern) : Nat → Reading Pattern
  | 0 => failure
  | fuel + 1 => do
    let joined : Pattern := match last with
      | some p => .seq done p
      | none => done
    skipComments
    match ← peek with
    | none => return joined
    | some '|' => return joined
    | some ')' => return joined
    | some '(' =>
      let _ ← next
      let outer := (← get).flags
      match ← groupStart with
      | none => sequence joined none fuel
      | some inner =>
        modify fun p => { p with flags := inner }
        let p ← alternatives fuel
        expect ')'
        modify fun s => { s with flags := outer }
        sequence joined (some p) fuel
    | some '[' =>
      let _ ← next
      let s ← bracketSet (fuel + 1)
      sequence joined (some (.one s)) fuel
    | some c =>
      match ← repetition? with
      | some (least, most) =>
        match last with
        | some p => sequence done (some (.times p least most)) fuel
        | none => failure
      | none =>
        let _ ← next
        sequence joined (some (← simple c)) fuel

end

/-- The greatest weight of a pattern. -/
def weightLimit : Nat := 400000

/-- The pattern that a text spells. -/
def parse? (s : String) : Option Pattern := do
  let cs := s.toList
  let (p, rest) ← (alternatives (4 * cs.length + 8)).run { rest := cs }
  if rest.rest.isEmpty && p.weight ≤ weightLimit then some p else none

end HeaderAbi.Pattern
