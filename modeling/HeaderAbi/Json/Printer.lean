import HeaderAbi.Data.Basic

/-!
# Writing JSON

`compact` writes a value without blanks, `pretty` with one field or item a line and two blanks of
indentation a level.  A tagged value is written as an object with the tag as its only key.
-/

namespace HeaderAbi.Json

/-- The lower-case hexadecimal digit of a number below sixteen. -/
def hexDigit (n : Nat) : Char :=
  if n < 10 then Char.ofNat (48 + n) else Char.ofNat (87 + n)

/-- A character inside quotes.  Quotes, backslashes and control characters are escaped. -/
def escapeChar (c : Char) : List Char :=
  if c == '"' then ['\\', '"']
  else if c == '\\' then ['\\', '\\']
  else if c == '\x08' then ['\\', 'b']
  else if c == '\x0c' then ['\\', 'f']
  else if c == '\n' then ['\\', 'n']
  else if c == '\x0d' then ['\\', 'r']
  else if c == '\t' then ['\\', 't']
  else if c.toNat < 0x20 then
    ['\\', 'u', '0', '0', hexDigit (c.toNat / 16), hexDigit (c.toNat % 16)]
  else [c]

/-- A text in quotes. -/
def quote (s : String) : String :=
  "\"" ++ String.ofList (s.toList.flatMap escapeChar) ++ "\""

/-- The text of a map key. -/
def keyText : Data → String
  | .text s => s
  | .plain s => s
  | .int n => toString n
  | .bool b => if b then "true" else "false"
  | _ => "null"

mutual

/-- A value without blanks between its words. -/
def compact : Data → String
  | .list items => "[" ++ ",".intercalate (compactItems items) ++ "]"
  | .sequence items => "[" ++ ",".intercalate (compactItems items) ++ "]"
  | .object fields => "\x7b" ++ ",".intercalate (compactFields fields) ++ "\x7d"
  | .mapping entries => "\x7b" ++ ",".intercalate (compactEntries entries) ++ "\x7d"
  | .tagged tag content => "\x7b" ++ quote tag ++ ":" ++ compact content ++ "\x7d"
  | .null => "null"
  | .blank => "null"
  | .bool b => if b then "true" else "false"
  | .int n => toString n
  | .float written => written
  | .text s => quote s
  | .plain s => quote s

def compactItems : List Data → List String
  | [] => []
  | d :: ds => compact d :: compactItems ds

def compactFields : List (String × Data) → List String
  | [] => []
  | (k, d) :: fs => (quote k ++ ":" ++ compact d) :: compactFields fs

def compactEntries : List (Data × Data) → List String
  | [] => []
  | (k, d) :: es => (quote (keyText k) ++ ":" ++ compact d) :: compactEntries es

end

/-- A line break and the indentation of a level. -/
def newline (level : Nat) : String :=
  "\n" ++ String.ofList (List.replicate (2 * level) ' ')

/-- Parts between brackets, one a line; no line breaks when there are no parts. -/
def block (level : Nat) (opening closing : String) (parts : List String) : String :=
  if parts.isEmpty then opening ++ closing
  else
    opening ++ newline (level + 1) ++ ("," ++ newline (level + 1)).intercalate parts ++
      newline level ++ closing

mutual

/-- A value that starts at a level of indentation. -/
def prettyAt (level : Nat) : Data → String
  | .list items => block level "[" "]" (prettyItems (level + 1) items)
  | .sequence items => block level "[" "]" (prettyItems (level + 1) items)
  | .object fields => block level "\x7b" "\x7d" (prettyFields (level + 1) fields)
  | .mapping entries => block level "\x7b" "\x7d" (prettyEntries (level + 1) entries)
  | .tagged tag content =>
    block level "\x7b" "\x7d" [quote tag ++ ": " ++ prettyAt (level + 1) content]
  | .null => "null"
  | .blank => "null"
  | .bool b => if b then "true" else "false"
  | .int n => toString n
  | .float written => written
  | .text s => quote s
  | .plain s => quote s

def prettyItems (level : Nat) : List Data → List String
  | [] => []
  | d :: ds => prettyAt level d :: prettyItems level ds

def prettyFields (level : Nat) : List (String × Data) → List String
  | [] => []
  | (k, d) :: fs => (quote k ++ ": " ++ prettyAt level d) :: prettyFields level fs

def prettyEntries (level : Nat) : List (Data × Data) → List String
  | [] => []
  | (k, d) :: es => (quote (keyText k) ++ ": " ++ prettyAt level d) :: prettyEntries level es

end

/-- A value over several lines. -/
def pretty (d : Data) : String :=
  prettyAt 0 d

end HeaderAbi.Json
