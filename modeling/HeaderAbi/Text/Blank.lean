/-!
# White space

The characters that count as blank in names and spellings (the Unicode property `White_Space`),
with the two operations built on them: `trim` drops blanks at both ends of a text, `words` splits a
text at its runs of blanks.
-/

namespace HeaderAbi.Text

/-- The Unicode property `White_Space`. -/
def isBlank (c : Char) : Bool :=
  let n := c.toNat
  (9 ≤ n && n ≤ 13) || n == 0x20 || n == 0x85 || n == 0xA0 || n == 0x1680 ||
    (0x2000 ≤ n && n ≤ 0x200A) || n == 0x2028 || n == 0x2029 || n == 0x202F || n == 0x205F ||
    n == 0x3000

/-- The white space of ASCII: space, tab, line feed, form feed and carriage return. -/
def isAsciiBlank (b : UInt8) : Bool :=
  b == 0x20 || b == 0x09 || b == 0x0A || b == 0x0C || b == 0x0D

/-- The characters without the blanks at either end. -/
def trimChars (cs : List Char) : List Char :=
  ((cs.dropWhile isBlank).reverse.dropWhile isBlank).reverse

/-- The text without the blanks at either end. -/
def trim (s : String) : String :=
  String.ofList (trimChars s.toList)

/-- The words of a text: `current` holds the letters of the word being read, last letter first. -/
def wordsFrom (current : List Char) : List Char → List String
  | [] => if current.isEmpty then [] else [String.ofList current.reverse]
  | c :: cs =>
    if isBlank c then
      if current.isEmpty then wordsFrom [] cs
      else String.ofList current.reverse :: wordsFrom [] cs
    else wordsFrom (c :: current) cs

/-- The maximal runs of characters that are not blank. -/
def words (s : String) : List String :=
  wordsFrom [] s.toList

/-- The letters `A` to `Z` become `a` to `z`; nothing else changes. -/
def lowerAscii (s : String) : String :=
  String.ofList (s.toList.map Char.toLower)

end HeaderAbi.Text
