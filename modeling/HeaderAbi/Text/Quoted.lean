import HeaderAbi.Unicode.GeneralCategory

/-!
# Paths in messages

A path in a message stands between quotes.  Quotes, backslashes and characters that would not show
on their own (controls, odd blanks, invisible format characters, combining marks) are escaped.
-/

namespace HeaderAbi.Text

/-- Marks that take a place of their own but still join the character before them. -/
def joiningTable : Unicode.RangeTable := .ofLines [
  "9be 9d7 b3e b57 bbe bd7 cc2 cd5-cd6 d3e d57 dcf ddf 1b35 200c 302e-302f ff9e-ff9f 1133e 11357",
  "114b0 114bd 115af 11930 1d165 1d16e-1d172 e0020-e007f"]

/-- Combining marks and everything else that extends the character before it. -/
def extendsCharacter (n : Nat) : Bool :=
  Unicode.GeneralCategory.nonspacingMark.contains n ||
    Unicode.GeneralCategory.enclosingMark.contains n || joiningTable.contains n

/-- Separators, controls and formats, and code points without a meaning that all agree on. -/
def isUnprintable (n : Nat) : Bool :=
  n != 0x20 &&
    (Unicode.GeneralCategory.separators ++ Unicode.GeneralCategory.others).any (·.contains n)

def isHidden (c : Char) : Bool :=
  extendsCharacter c.toNat || isUnprintable c.toNat

/-- A character as it stands between quotes. -/
def quotedChar (c : Char) : String :=
  match c with
  | '\x00' => "\\0"
  | '\t' => "\\t"
  | '\n' => "\\n"
  | '\x0d' => "\\r"
  | '\\' => "\\\\"
  | '"' => "\\\""
  | '\'' => "\\'"
  | c =>
    if isHidden c then
      "\\u\x7b" ++ String.ofList (Nat.toDigits 16 c.toNat) ++ "\x7d"
    else String.singleton c

/-- A text between quotes. -/
def quoted (s : String) : String :=
  "\"" ++ String.join (s.toList.map quotedChar) ++ "\""

end HeaderAbi.Text
