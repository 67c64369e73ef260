import HeaderAbi.Yaml.ScalarText

/-!
# Writing YAML

`render` writes data in block style: one field or item a line, two blanks of indentation a level,
the items of a list at the indentation of their key.  Empty collections are written in brackets, and
a variant as a tag in front of what it carries.
-/

namespace HeaderAbi.Yaml

/-- A line break and some indentation. -/
def newline (indent : Nat) : String :=
  "\n" ++ String.ofList (spaces indent)

/-- A text with a line break at its end, if it does not end with one already. -/
def ended (s : String) : String :=
  if s.toList.getLast?.any isBreak then s else s ++ "\n"

/-- Parts one below the other, all at an indentation. -/
def stack (indent : Nat) : List String → String
  | [] => ""
  | [part] => part
  | part :: parts => ended part ++ String.ofList (spaces indent) ++ stack indent parts

mutual

/-- What follows a colon or a dash at an indentation.  `sameLine` tells that a collection may start
on the line of its dash, `shift` how far the items of a list are indented. -/
def follow (indent shift : Nat) (sameLine : Bool) : Data → String
  | .list [] => " []"
  | .sequence [] => " []"
  | .object [] => " \x7b\x7d"
  | .mapping [] => " \x7b\x7d"
  | .list items =>
    (if sameLine then " " else newline (indent + shift)) ++
      stack (indent + shift) (itemTexts (indent + shift) items)
  | .sequence items =>
    (if sameLine then " " else newline (indent + shift)) ++
      stack (indent + shift) (itemTexts (indent + shift) items)
  | .object fields =>
    (if sameLine then " " else newline (indent + 2)) ++
      stack (indent + 2) (fieldTexts (indent + 2) fields)
  | .mapping entries =>
    (if sameLine then " " else newline (indent + 2)) ++
      stack (indent + 2) (entryTexts (indent + 2) entries)
  | .tagged tag content => " !" ++ tag ++ follow indent shift false content
  | .null => " null"
  | .blank => " null"
  | .bool b => if b then " true" else " false"
  | .int n => s!" {n}"
  | .float written => " " ++ written
  | .text s => " " ++ scalarText (indent + 2) s
  | .plain s => " " ++ s

def itemTexts (indent : Nat) : List Data → List String
  | [] => []
  | d :: ds => ("-" ++ follow indent 2 true d) :: itemTexts indent ds

def fieldTexts (indent : Nat) : List (String × Data) → List String
  | [] => []
  | (k, d) :: fs => (scalarText (indent + 2) k ++ ":" ++ follow indent 0 false d) ::
      fieldTexts indent fs

def entryTexts (indent : Nat) : List (Data × Data) → List String
  | [] => []
  | (k, d) :: es =>
    (scalarText (indent + 2) (Json.keyText k) ++ ":" ++ follow indent 0 false d) ::
      entryTexts indent es

end

/-- A whole text.  A collection starts at the left margin. -/
def render (d : Data) : String :=
  match d with
  | .object (f :: fields) => ended (stack 0 (fieldTexts 0 (f :: fields)))
  | .mapping (e :: entries) => ended (stack 0 (entryTexts 0 (e :: entries)))
  | .list (i :: items) => ended (stack 0 (itemTexts 0 (i :: items)))
  | .sequence (i :: items) => ended (stack 0 (itemTexts 0 (i :: items)))
  | d => ended (String.ofList ((follow 0 0 true d).toList.drop 1))

end HeaderAbi.Yaml
