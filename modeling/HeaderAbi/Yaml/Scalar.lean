import HeaderAbi.Data.Scalar
import HeaderAbi.Yaml.Place

/-!
# YAML scalars

The four ways to write a text: plain, in single quotes, in double quotes, and as a block of lines.
Each reader starts at a cursor and answers the text with the cursor behind it, or nothing when the
text is malformed.  The loops run at most once per character that is left.
-/

namespace HeaderAbi.Yaml

/-! ### Plain scalars -/

/-- The word at the start of some characters, last character first.  A colon before a blank ends it,
and inside brackets so do commas and brackets; a colon right before one of these is an error. -/
def plainWord? (inFlow : Bool) (p : Place) (done : List Char) :
    List Char → Option (List Char × Cursor)
  | [] => some (done, ⟨p, []⟩)
  | c :: rest =>
    let isFlowMark (x : Char) : Bool := x == ',' || x == '[' || x == ']' || x == '{' || x == '}'
    let next := rest.headD ' '
    if isBlank c || isBreak c then some (done, ⟨p, c :: rest⟩)
    else if inFlow && c == ':' && (isFlowMark next || next == '?') then none
    else if (c == ':' && atBlank rest) || (inFlow && isFlowMark c) then some (done, ⟨p, c :: rest⟩)
    else plainWord? inFlow p.next (c :: done) rest

/-- A plain scalar as it is read. -/
structure Plain where
  text : List Char
  /-- The scalar is followed by a line break. -/
  endsLine : Bool
  cursor : Cursor

/-- Words and gaps in turn; `done` holds the text so far, last character first, and `gap` the gap
that comes before the next word. -/
def plainFrom? (inFlow : Bool) (indent : Nat) :
    Nat → List Char → Gap → Cursor → Option Plain
  | 0, _, _, _ => none
  | fuel + 1, done, gap, cursor => do
    let finish (done : List Char) (gap : Gap) (cursor : Cursor) : Plain :=
      ⟨done.reverse, !gap.breaks.isEmpty, cursor⟩
    if cursor.atMarker || cursor.rest.head? == some '#' then
      return finish done gap cursor
    let (word, cursor) ← plainWord? inFlow cursor.place [] cursor.rest
    if word.isEmpty then
      return finish done gap cursor
    let done := word ++ gap.fold.reverse ++ done
    let (gap, cursor) := Gap.scan indent cursor
    if gap.hasTab then none
    if gap.blanks.isEmpty && gap.breaks.isEmpty then
      return finish done gap cursor
    if !inFlow && cursor.place.column < indent then
      return finish done gap cursor
    plainFrom? inFlow indent fuel done gap cursor

/-- The plain scalar at a cursor. -/
def plain? (inFlow : Bool) (indent : Nat) (c : Cursor) : Option Plain :=
  plainFrom? inFlow indent (c.rest.length + 1) [] {} c

/-! ### Quoted scalars -/

/-- An escape of hexadecimal digits that is being read. -/
structure HexEscape where
  value : Nat
  missing : Nat

/-- What ended a word inside quotes. -/
inductive QuotedEnd where
  | quote
  | gap
  /-- A backslash at the end of a line. -/
  | escapedBreak
deriving DecidableEq

/-- The character that a one-letter escape in double quotes stands for. -/
def escape? (c : Char) : Option Char :=
  match c with
  | '0' => some '\x00'
  | 'a' => some '\x07'
  | 'b' => some '\x08'
  | 't' => some '\t'
  | '\t' => some '\t'
  | 'n' => some '\n'
  | 'v' => some '\x0b'
  | 'f' => some '\x0c'
  | 'r' => some '\x0d'
  | 'e' => some '\x1b'
  | ' ' => some ' '
  | '"' => some '"'
  | '/' => some '/'
  | '\\' => some '\\'
  | 'N' => some '\u0085'
  | '_' => some '\u00a0'
  | 'L' => some '\u2028'
  | 'P' => some '\u2029'
  | _ => none

/-- The number of digits after the letter of a hexadecimal escape. -/
def hexWidth? (c : Char) : Option Nat :=
  match c with
  | 'x' => some 2
  | 'u' => some 4
  | 'U' => some 8
  | _ => none

/-- A word inside double quotes. -/
def doubleWord? (p : Place) (done : List Char) (hex : Option HexEscape) :
    List Char → Option (List Char × QuotedEnd × Cursor)
  | [] => none
  | c :: rest =>
    match hex with
    | some h => do
      let value := h.value * 16 + (← Data.digit? 16 c)
      if 1 < h.missing then
        doubleWord? p.next done (some ⟨value, h.missing - 1⟩) rest
      else if value.isValidChar then doubleWord? p.next (Char.ofNat value :: done) none rest
      else none
    | none =>
      if isBlank c || isBreak c then some (done, .gap, ⟨p, c :: rest⟩)
      else if c == '"' then some (done, .quote, ⟨p.next, rest⟩)
      else if c == '\\' then
        match rest with
        | [] => none
        | e :: after =>
          if isBreak e then some (done, .escapedBreak, (Cursor.mk p.next rest).advance)
          else match hexWidth? e with
            | some width => doubleWord? p.next.next done (some ⟨0, width⟩) after
            | none =>
              match escape? e with
              | some x => doubleWord? p.next.next (x :: done) none after
              | none => none
      else doubleWord? p.next (c :: done) none rest

/-- A word inside single quotes, where a quote is written twice. -/
def singleWord? (p : Place) (done : List Char) : List Char → Option (List Char × QuotedEnd × Cursor)
  | [] => none
  | '\'' :: '\'' :: rest => singleWord? p.next.next ('\'' :: done) rest
  | c :: rest =>
    if isBlank c || isBreak c then some (done, .gap, ⟨p, c :: rest⟩)
    else if c == '\'' then some (done, .quote, ⟨p.next, rest⟩)
    else singleWord? p.next (c :: done) rest

/-- Words and gaps in turn, up to the closing quote. -/
def quotedFrom? (isDouble : Bool) : Nat → List Char → Cursor → Option (List Char × Cursor)
  | 0, _, _ => none
  | fuel + 1, done, cursor => do
    if cursor.atMarker then none
    let (word, stop, cursor) ←
      if isDouble then doubleWord? cursor.place [] none cursor.rest
      else singleWord? cursor.place [] cursor.rest
    let done := word ++ done
    match stop with
    | .quote => return (done.reverse, cursor)
    | .gap =>
      let (gap, cursor) := Gap.scan 0 cursor
      quotedFrom? isDouble fuel (gap.fold.reverse ++ done) cursor
    | .escapedBreak =>
      let (gap, cursor) := Gap.scanFrom 0 { breaks := [' '] } cursor.place cursor.rest
      quotedFrom? isDouble fuel (gap.breaks.dropLast ++ done) cursor

/-- The quoted scalar at a cursor, which stands on the opening quote. -/
def quoted? (isDouble : Bool) (c : Cursor) : Option (List Char × Cursor) :=
  let c := c.advance
  quotedFrom? isDouble (c.rest.length + 1) [] c

/-! ### Block scalars -/

/-- What happens to the line breaks at the end of a block: all but the first go, all go, or all
stay. -/
inductive Chomping where
  | clip
  | strip
  | keep
deriving DecidableEq

/-- The indicators after `|` or `>`: chomping, and an indentation if one is given. -/
def blockHeader? (cs : List Char) : Option (Chomping × Nat × List Char) :=
  let chomping (c : Char) : Option Chomping :=
    if c == '+' then some .keep else if c == '-' then some .strip else none
  let width (c : Char) : Option Nat := if c.isDigit then some (c.toNat - 48) else none
  let read : Option (Chomping × Nat × List Char) :=
    match cs with
    | a :: rest =>
      match chomping a, rest with
      | some k, b :: rest' =>
        match width b with
        | some n => some (k, n + 1, rest')
        | none => some (k, 0, rest)
      | some k, [] => some (k, 0, [])
      | none, _ =>
        match width a, rest with
        | some n, b :: rest' =>
          match chomping b with
          | some k => some (k, n + 1, rest')
          | none => some (.clip, n + 1, rest)
        | some n, [] => some (.clip, n + 1, [])
        | none, _ => some (.clip, 0, cs)
    | [] => some (.clip, 0, [])
  -- The width is kept one too large, so that a written zero differs from none.
  match read with
  | some (k, n, rest) => if n == 1 then none else some (k, n - 1, rest)
  | none => none

/-- The indentation and empty lines before a line of a block.  `indent` is zero when it is still to
be found out; then every space counts, and the widest column seen is remembered. -/
def blockGap? (indent : Nat) (widest : Nat) (breaks : List Char) (p : Place) :
    List Char → Option (Nat × List Char × Cursor)
  | '\x0d' :: '\n' :: rest =>
    blockGap? indent (max widest p.column) ('\n' :: breaks) (p.nextLine 2) rest
  | c :: rest =>
    if c == ' ' && (indent == 0 || p.column < indent) then
      blockGap? indent widest breaks p.next rest
    else if c == '\t' && (indent == 0 || p.column < indent) then none
    else if isBreak c then
      blockGap? indent (max widest p.column) (breakValue c :: breaks) (p.nextLine 1) rest
    else some (max widest p.column, breaks, ⟨p, c :: rest⟩)
  | [] => some (max widest p.column, breaks, ⟨p, []⟩)

/-- The lines of a block.  `lead` is the break that ended the line before, if any, and `trail` holds
the breaks of the empty lines after it, last first; `wasBlank` tells that the line before started
with a blank.  Folding joins two lines that do not start with a blank. -/
def blockLines? (folded : Bool) (indent : Nat) :
    Nat → List Char → Option Char → List Char → Bool → Cursor →
      Option (List Char × Option Char × List Char × Cursor)
  | 0, _, _, _, _, _ => none
  | fuel + 1, done, lead, trail, wasBlank, cursor => do
    if cursor.place.column ≠ indent || cursor.rest.isEmpty then
      return (done, lead, trail, cursor)
    let startsBlank := (cursor.rest.head?.map isBlank).getD false
    let joint : List Char :=
      if folded && lead == some '\n' && !wasBlank && !startsBlank then
        if trail.isEmpty then [' '] else trail
      else trail ++ lead.toList
    let line := cursor.rest.takeWhile (!isBreak ·)
    let cursor := cursor.skipWhile (!isBreak ·)
    let done := line.reverse ++ joint ++ done
    let lead := cursor.rest.head?.map breakValue
    let cursor := cursor.advance
    let (_, trail, cursor) ← blockGap? indent 0 [] cursor.place cursor.rest
    blockLines? folded indent fuel done lead trail startsBlank cursor

/-- The block scalar at a cursor, which stands on `|` or `>`; `parent` is one more than the
indentation of the collection it lies in. -/
def block? (folded : Bool) (parent : Nat) (c : Cursor) : Option (List Char × Cursor) := do
  let start := c.advance
  let (chomping, width, rest) ← blockHeader? start.rest
  let taken := start.rest.length - rest.length
  let c : Cursor :=
    ⟨{ start.place with index := start.place.index + taken,
                        column := start.place.column + taken }, rest⟩
  let c := c.skipWhile isBlank
  let c := if c.rest.head? == some '#' then c.skipWhile (!isBreak ·) else c
  if !atBreak c.rest then none
  let c := if c.rest.isEmpty then c else c.advance
  let given := if width == 0 then 0 else (parent - 1) + width
  let (widest, trail, c) ← blockGap? given 0 [] c.place c.rest
  let indent := if given == 0 then max widest (max parent 1) else given
  let (done, lead, trail, c) ← blockLines? folded indent (c.rest.length + 1) [] none trail false c
  let ending := match chomping with
    | .strip => []
    | .clip => lead.toList
    | .keep => trail ++ lead.toList
  return ((ending ++ done).reverse, c)

end HeaderAbi.Yaml
