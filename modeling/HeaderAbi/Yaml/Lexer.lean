import HeaderAbi.Yaml.Scalar
import HeaderAbi.Yaml.Token

/-!
# Cutting a YAML text into words

`lex?` answers the words of a text.  Two things make the words depend on what came before:

* **Indentation.**  `Lexer.indents` holds the columns (plus one) of the block collections that are
  open.  A column further right opens one, a column further left closes those beyond it.
* **Simple keys.**  A key is known for one only when its colon is reached.  The lexer remembers
  where a key may have started (`PossibleKey`) and puts the word `key` there afterwards.
-/

namespace HeaderAbi.Yaml

/-- A place where a key may have started. -/
structure PossibleKey where
  /-- The number of words before it. -/
  before : Nat
  place : Place
  /-- Nothing but a key can stand there. -/
  isRequired : Bool
deriving Inhabited

/-- The lexer between two words. -/
structure Lexer where
  cursor : Cursor
  /-- The words so far, last first, and their number. -/
  found : List Token := []
  count : Nat := 0
  /-- One more than the indentation of each open block collection, innermost first. -/
  indents : List Nat := []
  /-- The number of open brackets and braces. -/
  flowLevel : Nat := 0
  /-- The possible key of the innermost bracket, and of those around it. -/
  key : Option PossibleKey := none
  outerKeys : List (Option PossibleKey) := []
  /-- A key may start here. -/
  keyAllowed : Bool := true
deriving Inhabited

namespace Lexer

/-- One more than the indentation of the innermost block collection; zero when there is none. -/
def level (x : Lexer) : Nat :=
  x.indents.headD 0

def push (x : Lexer) (t : Token) : Lexer :=
  { x with found := t :: x.found, count := x.count + 1 }

/-- Put a word after the first `before` words. -/
def insert (x : Lexer) (before : Nat) (t : Token) : Lexer :=
  let later := x.count - before
  { x with found := x.found.take later ++ t :: x.found.drop later, count := x.count + 1 }

/-- Pass over some characters of a line. -/
def skip (x : Lexer) (n : Nat) : Lexer :=
  let p := x.cursor.place
  { x with cursor := ⟨{ p with index := p.index + n, column := p.column + n },
                      x.cursor.rest.drop n⟩ }

/-- A word of punctuation that takes some characters. -/
def punctuate (x : Lexer) (n : Nat) (t : Token) : Lexer :=
  (x.skip n).push t

/-- Forget the possible key; an error if it was required. -/
def dropKey? (x : Lexer) : Option Lexer :=
  match x.key with
  | some k => if k.isRequired then none else some { x with key := none }
  | none => some x

/-- Remember that a key may start here. -/
def saveKey? (x : Lexer) : Option Lexer :=
  if x.keyAllowed then do
    let x ← x.dropKey?
    let place := x.cursor.place
    let isRequired := x.flowLevel == 0 && x.level == place.column + 1
    return { x with key := some ⟨x.count, place, isRequired⟩ }
  else some x

/-- Close the block collections whose level is beyond a limit. -/
def closeBeyond (x : Lexer) (limit : Nat) : Lexer :=
  if x.flowLevel ≠ 0 then x
  else
    let closed := (x.indents.takeWhile (limit < ·)).length
    { x with
      found := List.replicate closed .close ++ x.found
      count := x.count + closed
      indents := x.indents.drop closed }

/-- Open a block collection at a column, unless one is open there; its word comes after the first
`before` words. -/
def openBlock (x : Lexer) (column before : Nat) (t : Token) : Lexer :=
  if x.flowLevel == 0 && x.level < column + 1 then
    { x.insert before t with indents := (column + 1) :: x.indents }
  else x

/-- Open a block collection at the cursor, where a new entry must be allowed. -/
def openHere? (x : Lexer) (t : Token) : Option Lexer :=
  if x.flowLevel ≠ 0 then some x
  else if x.keyAllowed then some (x.openBlock x.cursor.place.column x.count t)
  else none

/-- Pass over blanks, comments and line breaks.  A tab may not stand where a key is possible.  After
a line break outside brackets a key is possible again. -/
def skipBlanks (x : Lexer) : Nat → Lexer
  | 0 => x
  | fuel + 1 =>
    let tabs := x.flowLevel ≠ 0 || !x.keyAllowed
    let c := x.cursor.skipWhile fun b => b == ' ' || (tabs && b == '\t')
    let c := if c.rest.head? == some '#' then c.skipWhile (!isBreak ·) else c
    if c.rest.isEmpty || !atBreak c.rest then { x with cursor := c }
    else
      skipBlanks { x with cursor := c.advance, keyAllowed := x.keyAllowed || x.flowLevel == 0 } fuel

/-- A word that ends everything open: a marker or a directive. -/
def endBlocks? (x : Lexer) : Option Lexer := do
  let x ← (x.closeBeyond 0).dropKey?
  return { x with keyAllowed := false }

/-- Characters of names of anchors, tag handles and directives. -/
def isNameChar (c : Char) : Bool :=
  c.isAlphanum || c == '_' || c == '-'

/-- Characters of tags; commas and square brackets only between angle brackets. -/
def isTagChar (isVerbatim : Bool) (c : Char) : Bool :=
  isNameChar c || ";/?:@&=+$.!~*'()%".toList.contains c ||
    (isVerbatim && (c == ',' || c == '[' || c == ']'))

/-- The bytes that percent signs stand for, among the bytes of the other characters. -/
def tagBytes? : List Char → Option (List UInt8)
  | [] => some []
  | '%' :: a :: b :: rest => do
    let high ← Data.digit? 16 a
    let low ← Data.digit? 16 b
    return UInt8.ofNat (high * 16 + low) :: (← tagBytes? rest)
  | '%' :: _ => none
  | c :: rest => do return UInt8.ofNat c.toNat :: (← tagBytes? rest)

/-- The text of a tag with its percent signs resolved. -/
def tagText? (cs : List Char) : Option String := do
  String.fromUTF8? ⟨(← tagBytes? cs).toArray⟩

/-- A tag at a cursor: handle, suffix and the characters behind it. -/
def tagParts? (cs : List Char) : Option (String × String × List Char) :=
  match cs with
  | '!' :: '<' :: body => do
    let uri := body.takeWhile (isTagChar true)
    match uri, body.dropWhile (isTagChar true) with
    | [], _ => none
    | _, '>' :: rest => return ("", ← tagText? uri, rest)
    | _, _ => none
  | '!' :: body =>
    let name := body.takeWhile isNameChar
    match body.dropWhile isNameChar with
    | '!' :: after => do
      let suffix := after.takeWhile (isTagChar false)
      if suffix.isEmpty then none
      return ("!" ++ String.ofList name ++ "!", ← tagText? suffix,
        after.dropWhile (isTagChar false))
    | after => do
      let suffix ← tagText? (after.takeWhile (isTagChar false))
      let rest := after.dropWhile (isTagChar false)
      if name.isEmpty && suffix.isEmpty then return ("", "!", rest)
      return ("!", String.ofList name ++ suffix, rest)
  | _ => none

/-- A tag, which a blank must follow, or a comma inside brackets. -/
def tag? (x : Lexer) : Option Lexer := do
  let (handle, suffix, rest) ← tagParts? x.cursor.rest
  if !(atBlank rest || (x.flowLevel ≠ 0 && rest.head? == some ',')) then none
  return x.punctuate (x.cursor.rest.length - rest.length) (.tag handle suffix)

/-- An anchor or alias: a name that ends at a blank or at punctuation. -/
def anchor? (x : Lexer) (make : String → Token) : Option Lexer := do
  let body := x.cursor.rest.drop 1
  let name := body.takeWhile isNameChar
  let rest := body.dropWhile isNameChar
  let stops :=
    atBlank rest || ((rest.head?.map fun c => "?:,]\x7d%@\x60".toList.contains c).getD true)
  if name.isEmpty || !stops then none
  return x.punctuate (name.length + 1) (make (String.ofList name))

/-- The number at the start of some characters: at least one digit, at most nine. -/
def versionNumber? (cs : List Char) : Option (Nat × List Char) :=
  let ds := cs.takeWhile Char.isDigit
  if ds.isEmpty || 9 < ds.length then none
  else (Data.digits? 10 ds).map (·, cs.dropWhile Char.isDigit)

/-- The handle that a tag directive defines: `!`, `!!` or a name between exclamation marks. -/
def definedHandle? (cs : List Char) : Option (String × List Char) :=
  match cs with
  | '!' :: body =>
    let name := body.takeWhile isNameChar
    match body.dropWhile isNameChar with
    | '!' :: rest => some ("!" ++ String.ofList name ++ "!", rest)
    | rest => if name.isEmpty then some ("!", rest) else none
  | _ => none

/-- What a directive says, and the characters behind it. -/
def directiveBody? (cs : List Char) : Option (Token × List Char) := do
  let name := cs.takeWhile isNameChar
  let after := cs.dropWhile isNameChar
  if name.isEmpty || !atBlank after then none
  let after := after.dropWhile isBlank
  if name == "YAML".toList then
    let (major, rest) ← versionNumber? after
    match rest with
    | '.' :: rest =>
      let (minor, rest) ← versionNumber? rest
      return (.version major minor, rest)
    | _ => none
  else if name == "TAG".toList then
    let (handle, rest) ← definedHandle? after
    if !(rest.head?.map isBlank).getD false then none
    let rest := rest.dropWhile isBlank
    let uri := rest.takeWhile (isTagChar true)
    let rest := rest.dropWhile (isTagChar true)
    if uri.isEmpty || !atBlank rest then none
    return (.tagHandle handle (← tagText? uri), rest)
  else none

/-- A directive fills its line but for a comment. -/
def directive? (x : Lexer) : Option Lexer := do
  let x ← x.endBlocks?
  let (t, rest) ← directiveBody? (x.cursor.rest.drop 1)
  let x := x.punctuate (x.cursor.rest.length - rest.length) t
  let c := x.cursor.skipWhile isBlank
  let c := if c.rest.head? == some '#' then c.skipWhile (!isBreak ·) else c
  if !atBreak c.rest then none
  return { x with cursor := c.advance }

/-- A bracket or brace opens. -/
def openFlow? (x : Lexer) (t : Token) : Option Lexer := do
  let x ← x.saveKey?
  return { x.punctuate 1 t with
    flowLevel := x.flowLevel + 1, key := none, outerKeys := x.key :: x.outerKeys,
    keyAllowed := true }

/-- A bracket or brace closes. -/
def closeFlow? (x : Lexer) (t : Token) : Option Lexer := do
  let x ← x.dropKey?
  let x := { x.punctuate 1 t with keyAllowed := false }
  match x.outerKeys with
  | key :: outer => return { x with flowLevel := x.flowLevel - 1, key := key, outerKeys := outer }
  | [] => return x

/-- A dash before an item. -/
def item? (x : Lexer) : Option Lexer := do
  let x ← (← x.openHere? .openItems).dropKey?
  return { x.punctuate 1 .dash with keyAllowed := true }

/-- A question mark before a key. -/
def explicitKey? (x : Lexer) : Option Lexer := do
  let x ← (← x.openHere? .openEntries).dropKey?
  return { x.punctuate 1 .key with keyAllowed := x.flowLevel == 0 }

/-- The possible key if it is still one: on the same line, and not too far back.  An error if it is
required but no longer possible. -/
def currentKey? (x : Lexer) : Option (Option PossibleKey) :=
  match x.key with
  | none => some none
  | some k =>
    let p := x.cursor.place
    if k.place.line < p.line || k.place.index + 1024 < p.index then
      if k.isRequired then none else some none
    else some (some k)

/-- A colon before a value.  A key that was possible becomes one. -/
def value? (x : Lexer) : Option Lexer := do
  match ← x.currentKey? with
  | some k =>
    let x := x.insert k.before .key
    let x := x.openBlock k.place.column k.before .openEntries
    return { x.punctuate 1 .value with key := none, keyAllowed := false }
  | none =>
    let x ← { x with key := none }.openHere? .openEntries
    return { x.punctuate 1 .value with keyAllowed := x.flowLevel == 0 }

/-- A scalar that may be a key. -/
def scalar? (x : Lexer) (read : Cursor → Option (List Char × Bool × Bool × Cursor)) :
    Option Lexer := do
  let x ← x.saveKey?
  let (text, isPlain, endsLine, cursor) ← read x.cursor
  return { x.push (.scalar (String.ofList text) isPlain) with
    cursor := cursor, keyAllowed := endsLine }

def quotedScalar? (x : Lexer) (isDouble : Bool) : Option Lexer :=
  x.scalar? fun c => (quoted? isDouble c).map fun (text, c) => (text, false, false, c)

def plainScalar? (x : Lexer) : Option Lexer :=
  x.scalar? fun c =>
    (plain? (x.flowLevel ≠ 0) x.level c).map fun p => (p.text, true, p.endsLine, p.cursor)

def blockScalar? (x : Lexer) (folded : Bool) : Option Lexer := do
  let x ← x.dropKey?
  let (text, cursor) ← block? folded x.level x.cursor
  return { x.push (.scalar (String.ofList text) false) with cursor := cursor, keyAllowed := true }

/-- The word that starts with a character, the characters `after` it following. -/
def word? (x : Lexer) (c : Char) (after : List Char) : Option Lexer :=
  let inFlow := x.flowLevel ≠ 0
  let blankNext := atBlank after
  if x.cursor.place.column == 0 && c == '%' then x.directive?
  else if x.cursor.isMarker '-' then (x.endBlocks?).map (·.punctuate 3 .documentStart)
  else if x.cursor.isMarker '.' then (x.endBlocks?).map (·.punctuate 3 .documentEnd)
  else if c == '[' then x.openFlow? .openBracket
  else if c == '{' then x.openFlow? .openBrace
  else if c == ']' then x.closeFlow? .closeBracket
  else if c == '}' then x.closeFlow? .closeBrace
  else if c == ',' then
    x.dropKey?.map fun x => { x.punctuate 1 .comma with keyAllowed := true }
  else if c == '-' && blankNext then x.item?
  else if c == '?' && (inFlow || blankNext) then x.explicitKey?
  else if c == ':' && (inFlow || blankNext) then x.value?
  else if c == '*' then
    x.saveKey?.bind fun x => { x with keyAllowed := false }.anchor? .alias
  else if c == '&' then
    x.saveKey?.bind fun x => { x with keyAllowed := false }.anchor? .anchor
  else if c == '!' then
    x.saveKey?.bind fun x => { x with keyAllowed := false }.tag?
  else if c == '|' && !inFlow then x.blockScalar? false
  else if c == '>' && !inFlow then x.blockScalar? true
  else if c == '\'' then x.quotedScalar? false
  else if c == '"' then x.quotedScalar? true
  else
    let startsNone := "-?:,[]\x7b\x7d#&*!|>'\"%@\x60".toList.contains c || isBlank c
    let nextIsBlank := (after.head?.map isBlank).getD false
    if !startsNone || (c == '-' && !nextIsBlank) ||
      (!inFlow && (c == '?' || c == ':') && !blankNext)
    then x.plainScalar?
    else none

/-- The words of the rest of the text.  Every word takes at least one character. -/
def run? (x : Lexer) : Nat → Option (List Token)
  | 0 => none
  | fuel + 1 =>
    let x := x.skipBlanks (x.cursor.rest.length + 1)
    let x := x.closeBeyond (x.cursor.place.column + 1)
    match x.cursor.rest with
    | [] => (x.closeBeyond 0).dropKey?.map (·.found.reverse)
    | c :: after => do (← x.word? c after).run? fuel

end Lexer

/-- The words of a text.  A byte order mark may stand in front; it takes a column. -/
def lex? (s : String) : Option (List Token) :=
  let cs := s.toList
  if cs.all isAllowed then
    let start : Cursor := match cs with
      | '\ufeff' :: rest => ⟨⟨1, 0, 1⟩, rest⟩
      | cs => ⟨{}, cs⟩
    Lexer.run? { cursor := start } (cs.length + 2)
  else none

end HeaderAbi.Yaml
