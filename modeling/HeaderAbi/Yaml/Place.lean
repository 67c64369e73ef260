/-!
# Places in a YAML text

Indentation carries meaning in YAML, so the reader keeps the line and column of every character.

* `Place`: a position; `Place.next` and `Place.nextLine` move it.
* `Cursor`: a position with the characters that follow it.
* `Gap`: a run of blanks and line breaks inside a scalar; `Gap.fold` is the text it stands for.
-/

namespace HeaderAbi.Yaml

/-- The position of a character, counted from zero. -/
structure Place where
  index : Nat := 0
  line : Nat := 0
  column : Nat := 0
deriving DecidableEq, Inhabited

namespace Place

/-- The position after a character that is no line break. -/
def next (p : Place) : Place :=
  { p with index := p.index + 1, column := p.column + 1 }

/-- The position after a line break of some characters. -/
def nextLine (p : Place) (width : Nat) : Place :=
  ⟨p.index + width, p.line + 1, 0⟩

end Place

/-- A position and the rest of the text. -/
structure Cursor where
  place : Place
  rest : List Char
deriving Inhabited

def isBlank (c : Char) : Bool :=
  c == ' ' || c == '\t'

/-- The characters that end a line: line feed, carriage return, next line, and the line and
paragraph separators. -/
def isBreak (c : Char) : Bool :=
  c == '\n' || c == '\x0d' || c == '\u0085' || c == '\u2028' || c == '\u2029'

/-- The line break that a break character is read as. -/
def breakValue (c : Char) : Char :=
  if c == '\u2028' || c == '\u2029' then c else '\n'

/-- The text goes on with a blank or a line break, or ends. -/
def atBlank : List Char → Bool
  | [] => true
  | c :: _ => isBlank c || isBreak c

/-- The text goes on with a line break, or ends. -/
def atBreak : List Char → Bool
  | [] => true
  | c :: _ => isBreak c

/-- The characters that a text may hold at all. -/
def isAllowed (c : Char) : Bool :=
  let n := c.toNat
  n == 9 || n == 10 || n == 13 || (0x20 ≤ n && n ≤ 0x7E) || n == 0x85 ||
    (0xA0 ≤ n && n ≤ 0xD7FF) || (0xE000 ≤ n && n ≤ 0xFFFD) || 0x10000 ≤ n

namespace Cursor

/-- Three dashes or dots alone at the start of a line, which bound a document. -/
def isMarker (mark : Char) (c : Cursor) : Bool :=
  c.place.column == 0 &&
    match c.rest with
    | x :: y :: z :: rest => x == mark && y == mark && z == mark && atBlank rest
    | _ => false

/-- The text is at a line that starts or ends a document. -/
def atMarker (c : Cursor) : Bool :=
  c.isMarker '-' || c.isMarker '.'

/-- Pass over one character, or over one line break. -/
def advance (c : Cursor) : Cursor :=
  match c.rest with
  | '\x0d' :: '\n' :: rest => ⟨c.place.nextLine 2, rest⟩
  | x :: rest => if isBreak x then ⟨c.place.nextLine 1, rest⟩ else ⟨c.place.next, rest⟩
  | [] => c

/-- Pass over the characters of a line that satisfy a test. -/
def skipWhile (test : Char → Bool) (c : Cursor) : Cursor :=
  let taken := (c.rest.takeWhile test).length
  ⟨{ c.place with index := c.place.index + taken, column := c.place.column + taken },
    c.rest.dropWhile test⟩

end Cursor

/-- A run of blanks and line breaks. -/
structure Gap where
  /-- The blanks before the first line break, last first. -/
  blanks : List Char := []
  /-- The line breaks, last first. -/
  breaks : List Char := []
  /-- A tab stands where the indentation of a line should be. -/
  hasTab : Bool := false

namespace Gap

/-- One line break becomes a space; of several, the first disappears.  A separator of lines or
paragraphs always stays. -/
def fold (g : Gap) : List Char :=
  match g.breaks.reverse with
  | [] => g.blanks.reverse
  | ['\n'] => [' ']
  | '\n' :: more => more
  | more => more

/-- The gap at the start of some characters.  Blanks after a line break belong to the indentation,
which must not hold tabs left of column `indent`. -/
def scanFrom (indent : Nat) (g : Gap) (p : Place) : List Char → Gap × Cursor
  | '\x0d' :: '\n' :: rest =>
    scanFrom indent { g with blanks := [], breaks := '\n' :: g.breaks } (p.nextLine 2) rest
  | c :: rest =>
    if isBlank c then
      let g := if g.breaks.isEmpty then { g with blanks := c :: g.blanks }
        else { g with hasTab := g.hasTab || (c == '\t' && p.column < indent) }
      scanFrom indent g p.next rest
    else if isBreak c then
      scanFrom indent { g with blanks := [], breaks := breakValue c :: g.breaks } (p.nextLine 1)
        rest
    else (g, ⟨p, c :: rest⟩)
  | [] => (g, ⟨p, []⟩)

/-- The gap at a cursor. -/
def scan (indent : Nat) (c : Cursor) : Gap × Cursor :=
  scanFrom indent {} c.place c.rest

end Gap

end HeaderAbi.Yaml
