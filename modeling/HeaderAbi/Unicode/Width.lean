import HeaderAbi.Text.Measure
import HeaderAbi.Unicode.WidthTables

/-!
# Display width

The number of cells that a text takes on a terminal.  It is the sum of what the characters take, but
for neighbours that join into one symbol: a picture with its selector or skin tone, pictures chained
by joiners, and the ligatures of a few scripts.

A text is measured from its end: `Following` is what the characters after a place contribute to the
width of the one before it.  A joining character may take back a cell that was already counted, so
the sum is over integers.
-/

namespace HeaderAbi.Unicode

/-- A letter that may join the letter before it. -/
inductive JoiningLetter where
  | alef
  | lamed
  /-- A Khmer letter that may stand below another one. -/
  | subscript
  | bugineseYa
  /-- The same after the vowel sign that joins it. -/
  | bugineseVowel
  | tifinagh
  /-- The same after the sign that joins consonants. -/
  | tifinaghSign
  | lisuTone
  | orkhonI
deriving DecidableEq, Inhabited

/-- What follows a place in a text, as far as it matters for the character there. -/
inductive Following where
  | nothing
  | lineFeed
  /-- A selector that asks for a picture; `chained` when a joiner and a picture come after it. -/
  | pictureSelector (chained : Bool)
  | textSelector
  | skinTone
  /-- Letters of a flag. -/
  | flagLetter
  | flagLetters
  | picture
  /-- A joiner with a picture after it. -/
  | chain
  /-- A key cap with a chain after it, and the same with a selector before it. -/
  | keyCap (selected : Bool)
  /-- Letters of a flag with a chain after them: one, an odd or an even number. -/
  | chainedFlag (count : Nat)
  /-- A letter that may join, with a joiner before it or not. -/
  | letter (which : JoiningLetter) (joined : Bool)
deriving DecidableEq, Inhabited

def isIn (n first last : Nat) : Bool := first ≤ n && n ≤ last

/-- The Khmer letters that may stand below another one. -/
def subscriptTable : RangeTable := .ofLines [
  "1780-1782 1784-1787 1789-178c 178e-1793 1795-1798 179b-179d 17a0 17a2 17a7 17ab-17ac 17af"]

/-- Invisible marks that do not keep letters from joining. -/
def skippedTable : RangeTable := .ofLines ["34f 17b4-17b5 180b-180d 180f fe00-fe0f e0100-e01ef"]

def isTifinaghConsonant (n : Nat) : Bool := isIn n 0x2D31 0x2D65 || n == 0x2D6F

def isFlagLetter (n : Nat) : Bool := isIn n 0x1F1E6 0x1F1FF

def isSkinTone (n : Nat) : Bool := isIn n 0x1F3FB 0x1F3FF

/-- The Arabic letters lam. -/
def isLam (n : Nat) : Bool :=
  n == 0x644 || isIn n 0x6B5 0x6B8 || n == 0x76A || n == 0x8A6 || n == 0x8C7

/-- The letter that a character is for the one before it. -/
def joiningLetter? (n : Nat) : Option JoiningLetter :=
  if alefTable.contains n then some .alef
  else if n == 0x5DC then some .lamed
  else if subscriptTable.contains n then some .subscript
  else if n == 0x1A10 then some .bugineseYa
  else if isTifinaghConsonant n then some .tifinagh
  else if isIn n 0xA4FC 0xA4FD then some .lisuTone
  else if n == 0x10C03 then some .orkhonI
  else none

/-- The cells that a code point takes on its own.  Control characters take one. -/
def cellsAlone (n : Nat) : Nat :=
  if n ≤ 0xA0 then 1
  -- A Khmer sign that abbreviates a word is shown as three letters.
  else if n == 0x17D8 then 3
  else if zeroTable.contains n then 0
  else if wideTable.contains n then 2
  else 1

/-- The cells of a single character; a control character is none to show. -/
def charWidth? (c : Char) : Option Nat :=
  let n := c.toNat
  if n < 0x20 || (0x7F ≤ n && n < 0xA0) then none else some (cellsAlone n)

/-- What a code point is for the one before it. -/
def followingOf (n : Nat) : Following :=
  if n == 0x0A then .lineFeed
  else if n ≤ 0xA0 then .nothing
  else if n == 0xFE0F then .pictureSelector false
  else if n == 0xFE0E then .textSelector
  else if isSkinTone n then .skinTone
  else if isFlagLetter n then .flagLetter
  else if emojiTable.contains n then .picture
  else match joiningLetter? n with
    | some l => .letter l false
    | none => .nothing

/-- A code point counted on its own. -/
def alone (n : Nat) : Int × Following :=
  (cellsAlone n, followingOf n)

/-- A code point before a letter that may join it: the cells that it adds, and what it is in turn;
nothing if the two do not join. -/
def beforeLetter? (n : Nat) (which : JoiningLetter) (joined : Bool) : Option (Int × Following) :=
  match which with
  | .alef =>
    if isLam n then some (0, .nothing)
    else if transparentTable.contains n then some (0, .letter .alef joined) else none
  | .bugineseVowel => if n == 0x1A15 then some (0, .nothing) else none
  | .tifinaghSign => if isTifinaghConsonant n then some (-1, .nothing) else none
  | which =>
    if n == 0x200D then some (0, .letter which true)
    else if skippedTable.contains n then some (0, .letter which joined)
    else match which with
      | .lamed => if joined && n == 0x5D0 then some (0, .nothing) else none
      | .subscript => if !joined && n == 0x17D2 then some (-1, .nothing) else none
      | .bugineseYa =>
        if joined && n == 0x1A17 then some (0, .letter .bugineseVowel false) else none
      | .tifinagh =>
        if n == 0x2D7F then some (1, .letter .tifinaghSign false)
        else if joined && isTifinaghConsonant n then some (0, .nothing) else none
      | .lisuTone => if !joined && isIn n 0xA4F8 0xA4FB then some (0, .nothing) else none
      | .orkhonI => if joined && n == 0x10C32 then some (0, .nothing) else none
      | _ => none

/-- A code point before something that it may join: the cells that it adds, and what it is in turn;
nothing if the two do not join. -/
def beforeJoining? (n : Nat) : Following → Option (Int × Following)
  | .nothing => none
  | .lineFeed => if n == 0x0D then some (0, .nothing) else none
  | .pictureSelector chained =>
    if selectableTable.contains n then some (if chained then 0 else 2, .picture) else none
  | .textSelector =>
    if selectableTable.contains n && emojiTable.contains n && !isIn n 0x1F200 0x1F2FF then
      some (1, .nothing)
    else none
  | .skinTone =>
    if modifiableTable.contains n then some (0, .picture)
    else if n == 0x200D then some (0, .chain) else none
  | .flagLetter => if isFlagLetter n then some (1, .flagLetters) else none
  | .flagLetters =>
    if isFlagLetter n then some (1, .flagLetters)
    else if n == 0x200D then some (0, .chain) else none
  | .picture => if n == 0x200D then some (0, .chain) else none
  | .chain =>
    if n == 0xFE0F then some (0, .pictureSelector true)
    else if n == 0x20E3 then some (0, .keyCap false)
    else if isFlagLetter n then some (1, .chainedFlag 1)
    else if isSkinTone n then some (0, .skinTone)
    else if emojiTable.contains n then some (0, .picture) else none
  | .keyCap false => if n == 0xFE0F then some (0, .keyCap true) else none
  | .keyCap true =>
    if isIn n 0x30 0x39 || n == 0x23 || n == 0x2A then some (0, .picture) else none
  | .chainedFlag count =>
    if isFlagLetter n then
      some (if count % 2 == 1 then -1 else 3, .chainedFlag (count + 1))
    else if 2 ≤ count && n == 0x200D then some (0, .chain) else none
  | .letter which joined => beforeLetter? n which joined

/-- One step of measuring, from the end. -/
def step (c : Char) (state : Int × Following) : Int × Following :=
  let (total, following) := state
  let (cells, now) := (beforeJoining? c.toNat following).getD (alone c.toNat)
  (total + cells, now)

/-- The cells that a text takes. -/
def displayWidth (s : String) : Nat :=
  (s.toList.foldr step (0, .nothing)).1.toNat

/-- The measure that the program takes of texts. -/
def measure : Measure := ⟨displayWidth, charWidth?⟩

end HeaderAbi.Unicode
