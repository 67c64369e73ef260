import HeaderAbi.Text.Blank
import HeaderAbi.Unicode.CaseFold
import HeaderAbi.Unicode.Script
import HeaderAbi.Unicode.Words

/-!
# Sets of characters

The sets that a pattern can name: ranges, properties of Unicode, and what set operations make of
them.  A set is never listed; `contains` decides membership.
-/

namespace HeaderAbi.Pattern

open Unicode (GeneralCategory Script)

/-- A property of characters. -/
inductive Property where
  /-- Letters, digits and connecting punctuation. -/
  | word
  | blank
  | alphabetic
  | uppercase
  | lowercase
  | hexDigit
  | emoji
  /-- One of some general categories. -/
  | among (categories : List GeneralCategory)
  | script (which : Script)
deriving DecidableEq, Inhabited

namespace Property

def holds (p : Property) (n : Nat) : Bool :=
  match p with
  | .word => Unicode.isWord n
  | .blank => Text.isBlank (Char.ofNat n)
  | .alphabetic => Unicode.isAlphabetic n
  | .uppercase => Unicode.isUppercase n
  | .lowercase => Unicode.isLowercase n
  | .hexDigit => Unicode.hexDigitTable.contains n
  | .emoji => Unicode.emojiCharacterTable.contains n
  | .among categories => categories.any (·.contains n)
  | .script which => which.table.contains n

/-- The decimal digits of any script. -/
def digit : Property := .among [.decimalNumber]

/-- Properties that characters have or have not. -/
def truths : List (String × Property) := [
  ("alphabetic", .alphabetic), ("alpha", .alphabetic), ("uppercase", .uppercase),
  ("upper", .uppercase), ("lowercase", .lowercase), ("lower", .lowercase),
  ("whitespace", .blank), ("space", .blank), ("wspace", .blank), ("hexdigit", .hexDigit),
  ("hex", .hexDigit), ("emoji", .emoji)]

/-- General categories and groups of them. -/
def categories : List (String × List GeneralCategory) := [
  ("l", GeneralCategory.letters), ("letter", GeneralCategory.letters),
  ("lc", [.uppercaseLetter, .lowercaseLetter, .titlecaseLetter]),
  ("casedletter", [.uppercaseLetter, .lowercaseLetter, .titlecaseLetter]),
  ("lu", [.uppercaseLetter]), ("uppercaseletter", [.uppercaseLetter]),
  ("ll", [.lowercaseLetter]), ("lowercaseletter", [.lowercaseLetter]),
  ("lt", [.titlecaseLetter]), ("titlecaseletter", [.titlecaseLetter]),
  ("lm", [.modifierLetter]), ("modifierletter", [.modifierLetter]),
  ("lo", [.otherLetter]), ("otherletter", [.otherLetter]),
  ("m", GeneralCategory.marks), ("mark", GeneralCategory.marks),
  ("combiningmark", GeneralCategory.marks),
  ("mn", [.nonspacingMark]), ("nonspacingmark", [.nonspacingMark]),
  ("mc", [.spacingMark]), ("spacingmark", [.spacingMark]),
  ("me", [.enclosingMark]), ("enclosingmark", [.enclosingMark]),
  ("n", GeneralCategory.numbers), ("number", GeneralCategory.numbers),
  ("nd", [.decimalNumber]), ("decimalnumber", [.decimalNumber]), ("digit", [.decimalNumber]),
  ("nl", [.letterNumber]), ("letternumber", [.letterNumber]),
  ("no", [.otherNumber]), ("othernumber", [.otherNumber]),
  ("p", GeneralCategory.punctuation), ("punctuation", GeneralCategory.punctuation),
  ("punct", GeneralCategory.punctuation),
  ("pc", [.connectorPunctuation]), ("connectorpunctuation", [.connectorPunctuation]),
  ("pd", [.dashPunctuation]), ("dashpunctuation", [.dashPunctuation]),
  ("ps", [.openPunctuation]), ("openpunctuation", [.openPunctuation]),
  ("pe", [.closePunctuation]), ("closepunctuation", [.closePunctuation]),
  ("pi", [.initialPunctuation]), ("initialpunctuation", [.initialPunctuation]),
  ("pf", [.finalPunctuation]), ("finalpunctuation", [.finalPunctuation]),
  ("po", [.otherPunctuation]), ("otherpunctuation", [.otherPunctuation]),
  ("s", GeneralCategory.symbols), ("symbol", GeneralCategory.symbols),
  ("sm", [.mathSymbol]), ("mathsymbol", [.mathSymbol]),
  ("sc", [.currencySymbol]), ("currencysymbol", [.currencySymbol]),
  ("sk", [.modifierSymbol]), ("modifiersymbol", [.modifierSymbol]),
  ("so", [.otherSymbol]), ("othersymbol", [.otherSymbol]),
  ("z", GeneralCategory.separators), ("separator", GeneralCategory.separators),
  ("zs", [.spaceSeparator]), ("spaceseparator", [.spaceSeparator]),
  ("zl", [.lineSeparator]), ("lineseparator", [.lineSeparator]),
  ("zp", [.paragraphSeparator]), ("paragraphseparator", [.paragraphSeparator]),
  ("c", GeneralCategory.others), ("other", GeneralCategory.others),
  ("cc", [.control]), ("control", [.control]), ("cntrl", [.control]),
  ("cf", [.format]), ("format", [.format]),
  ("co", [.privateUse]), ("privateuse", [.privateUse]),
  ("cn", [.unassigned]), ("unassigned", [.unassigned])]

def scripts : List (String × Script) := [
  ("arabic", .arabic), ("arab", .arabic), ("armenian", .armenian), ("armn", .armenian),
  ("cyrillic", .cyrillic), ("cyrl", .cyrillic), ("devanagari", .devanagari),
  ("deva", .devanagari), ("georgian", .georgian), ("geor", .georgian), ("greek", .greek),
  ("grek", .greek), ("han", .han), ("hani", .han), ("hangul", .hangul), ("hang", .hangul),
  ("hebrew", .hebrew), ("hebr", .hebrew), ("hiragana", .hiragana), ("hira", .hiragana),
  ("katakana", .katakana), ("kana", .katakana), ("latin", .latin), ("latn", .latin),
  ("thai", .thai)]

/-- A name without case, blanks, underscores, hyphens and a leading `is`. -/
def plainName (name : String) : String :=
  let plain := (Text.lowerAscii name).toList.filter fun c =>
    c != '_' && c != '-' && c != ' ' && c.toNat < 0x80
  match (Text.lowerAscii name).toList with
  | 'i' :: 's' :: _ => String.ofList (plain.drop 2)
  | _ => String.ofList plain

end Property

/-- A set of characters. -/
inductive CharSet where
  /-- The code points from one to another. -/
  | range (first last : Nat)
  | having (property : Property)
  | complement (s : CharSet)
  | union (s t : CharSet)
  | intersection (s t : CharSet)
  /-- The characters that differ from one of the set in case alone; `unicode` tells whether letters
  beyond ASCII have case. -/
  | anyCase (unicode : Bool) (s : CharSet)
deriving DecidableEq, Inhabited

namespace CharSet

/-- No character at all. -/
def none : CharSet := .range 1 0

/-- Every character. -/
def all : CharSet := .range 0 0x10FFFF

def single (c : Char) : CharSet := .range c.toNat c.toNat

def difference (s t : CharSet) : CharSet := .intersection s (.complement t)

def symmetricDifference (s t : CharSet) : CharSet := .union (s.difference t) (t.difference s)

def ofRanges (ranges : List (Nat × Nat)) : CharSet :=
  ranges.foldl (fun s (first, last) => .union s (.range first last)) none

/-- The same letter of ASCII in the other case; anything else stays as it is. -/
def otherCase (n : Nat) : Nat :=
  if 0x41 ≤ n && n ≤ 0x5A then n + 0x20 else if 0x61 ≤ n && n ≤ 0x7A then n - 0x20 else n

/-- A code point is in the set. -/
def containsPoint (s : CharSet) (n : Nat) : Bool :=
  match s with
  | .range first last => first ≤ n && n ≤ last
  | .having p => p.holds n
  | .complement s => !s.containsPoint n
  | .union s t => s.containsPoint n || t.containsPoint n
  | .intersection s t => s.containsPoint n && t.containsPoint n
  | .anyCase true s => (Unicode.caseVariants n).any s.containsPoint
  | .anyCase false s => s.containsPoint n || s.containsPoint (otherCase n)

/-- A character is in the set. -/
def contains (s : CharSet) (c : Char) : Bool :=
  s.containsPoint c.toNat

/-- Every code point that the set names or ranges over is ASCII; a complement is not counted. -/
def isAscii : CharSet → Bool
  | .range _ last => last < 0x80
  | .having _ => false
  | .complement _ => false
  | .union s t => s.isAscii && t.isAscii
  | .intersection s t => s.isAscii || t.isAscii
  | .anyCase _ s => s.isAscii

/-- The set that a name stands for: every character, ASCII, a truth, a general category or a
script. -/
def named? (name : String) : Option CharSet :=
  let plain := Property.plainName name
  match plain with
  | "any" => some all
  | "ascii" => some (.range 0 0x7F)
  | "assigned" => some (.complement (.having (.among [.unassigned])))
  | _ =>
    ((Property.truths.lookup plain).map .having).or
      (((Property.categories.lookup plain).map fun cs => .having (.among cs)).or
        ((Property.scripts.lookup plain).map fun s => .having (.script s)))

/-- The set that a value of a kind of property stands for. -/
def valued? (kind value : String) : Option CharSet :=
  let plain := Property.plainName value
  match Property.plainName kind with
  | "gc" | "generalcategory" =>
    match plain with
    | "any" | "ascii" | "assigned" => named? plain
    | _ => (Property.categories.lookup plain).map fun cs => .having (.among cs)
  | "sc" | "script" | "scx" | "scriptextensions" =>
    (Property.scripts.lookup plain).map fun s => .having (.script s)
  | _ => Option.none

/-- The letters, digits and underscore of ASCII. -/
def asciiWord : CharSet :=
  ofRanges [(0x30, 0x39), (0x41, 0x5A), (0x5F, 0x5F), (0x61, 0x7A)]

/-- The sets that are named between colons inside brackets. -/
def asciiClass? (name : String) : Option CharSet :=
  match name with
  | "alnum" => some (ofRanges [(0x30, 0x39), (0x41, 0x5A), (0x61, 0x7A)])
  | "alpha" => some (ofRanges [(0x41, 0x5A), (0x61, 0x7A)])
  | "ascii" => some (.range 0 0x7F)
  | "blank" => some (ofRanges [(0x09, 0x09), (0x20, 0x20)])
  | "cntrl" => some (ofRanges [(0x00, 0x1F), (0x7F, 0x7F)])
  | "digit" => some (.range 0x30 0x39)
  | "graph" => some (.range 0x21 0x7E)
  | "lower" => some (.range 0x61 0x7A)
  | "print" => some (.range 0x20 0x7E)
  | "punct" => some (ofRanges [(0x21, 0x2F), (0x3A, 0x40), (0x5B, 0x60), (0x7B, 0x7E)])
  | "space" => some (ofRanges [(0x09, 0x0D), (0x20, 0x20)])
  | "upper" => some (.range 0x41 0x5A)
  | "word" => some asciiWord
  | "xdigit" => some (ofRanges [(0x30, 0x39), (0x41, 0x46), (0x61, 0x66)])
  | _ => Option.none

/-- About how many steps an automaton takes to decide membership byte by byte. -/
def weight : CharSet → Nat
  | .range _ last => if last < 0x80 then 1 else 8
  | .having .blank => 12
  | .having .hexDigit => 12
  | .having (.script _) => 60
  | .having (.among cs) => 120 * cs.length
  | .having .emoji => 200
  | .having _ => 1800
  | .complement s => s.weight + 8
  | .union s t => s.weight + t.weight
  | .intersection s t => max s.weight t.weight
  | .anyCase _ s => 2 * s.weight

end CharSet

end HeaderAbi.Pattern
