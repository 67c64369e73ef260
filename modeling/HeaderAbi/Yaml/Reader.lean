import HeaderAbi.Data.Scalar
import HeaderAbi.Yaml.Lexer

/-!
# Reading YAML

`parse?` turns a text with one document into data.  Unquoted scalars stay `plain`: their type is
given later, by the reader that asks for one or by `Data.resolve?`.

An alias stands for a copy of the node it names, so a small text can describe a huge tree.  Two
limits guard against that: `depthLimit` on the nesting of the tree, and `copiesPerNode` on the
aliases followed in it.
-/

namespace HeaderAbi.Yaml

/-- A node with its nesting and the number of aliases that a reader of it follows. -/
structure Node where
  data : Data
  depth : Nat := 0
  jumps : Nat := 0
deriving Inhabited

/-- The reader between two words. -/
structure Progress where
  words : List Token
  /-- What names stand for, newest first; nothing while the node is still open. -/
  anchors : List (String × Option Node) := []
  /-- What tag handles stand for. -/
  handles : List (String × String) := [("!", "!"), ("!!", "tag:yaml.org,2002:")]
  /-- The number of scalars, aliases, and starts and ends of collections. -/
  events : Nat := 0

/-- The nesting that a document may have. -/
def depthLimit : Nat := 128

/-- The aliases that may be followed for every event of a document. -/
def copiesPerNode : Nat := 100

/-- A step of reading. -/
abbrev Reading := StateT Progress Option

namespace Reading

def peek : Reading (Option Token) := do
  return (← get).words.head?

/-- Pass over a word. -/
def drop : Reading Unit :=
  modify fun p => { p with words := p.words.drop 1 }

/-- Count events. -/
def count (n : Nat) : Reading Unit :=
  modify fun p => { p with events := p.events + n }

/-- The next word is one of those that end an empty node. -/
def endsAt (stops : List Token) : Reading Bool := do
  match ← peek with
  | none => return false
  | some t => return stops.contains t

end Reading

open Reading

/-- Anchor and tag of a node. -/
structure Properties where
  anchor : Option String := none
  tag : Option String := none

/-- The tag that a handle and a suffix spell. -/
def resolveTag (handle suffix : String) : Reading String := do
  if handle.isEmpty then return suffix
  match (← get).handles.find? (·.1 == handle) with
  | some (_, expansion) => return expansion ++ suffix
  | none => failure

/-- An anchor and a tag in either order. -/
def properties : Reading Properties := do
  match ← peek with
  | some (.anchor name) =>
    drop
    match ← peek with
    | some (.tag h s) => drop; return ⟨some name, ← resolveTag h s⟩
    | _ => return ⟨some name, none⟩
  | some (.tag h s) =>
    drop
    let tag ← resolveTag h s
    match ← peek with
    | some (.anchor name) => drop; return ⟨some name, tag⟩
    | _ => return ⟨none, tag⟩
  | _ => return {}

/-- The name of a variant, which a tag with an exclamation mark in front stands for. -/
def variantName? (tag : String) : Option String :=
  match tag.toList with
  | '!' :: name => some (String.ofList name)
  | _ => none

/-- Data under a tag.  Only tags that name a variant leave a trace. -/
def tagged (tag : Option String) (d : Data) : Reading Data :=
  match tag.bind variantName? with
  | some "" => failure
  | some name => return .tagged name d
  | none => return d

/-- A scalar whose tag gives it a type. -/
def typedScalar? (tag text : String) : Option Data :=
  match tag with
  | "tag:yaml.org,2002:bool" => (Data.truthWord? text).map .bool
  | "tag:yaml.org,2002:null" => if Data.isNullWord text then some .blank else none
  | "tag:yaml.org,2002:float" => if Data.isFloatWord text then some (.float text) else none
  | "tag:yaml.org,2002:int" => do
    let n ← Data.integer? text
    if -0x8000000000000000 ≤ n && n < 0x10000000000000000 then some (.int n) else none
  | _ => some (.text text)

/-- A scalar under its tag. -/
def scalar (tag : Option String) (text : String) (isPlain : Bool) : Reading Data :=
  let untagged : Data := if isPlain then .plain text else .text text
  match tag with
  | none => return untagged
  | some "!" => return untagged
  | some t =>
    if (variantName? t).isSome then tagged t untagged
    else match typedScalar? t text with
      | some d => return d
      | none => failure

/-- A node without content. -/
def emptyNode : Reading Node := do
  count 1
  return ⟨.plain "", 0, 0⟩

/-- Give a name to a node that starts here. -/
def openAnchor (p : Properties) : Reading Unit :=
  match p.anchor with
  | some name => modify fun s => { s with anchors := (name, none) :: s.anchors }
  | none => return

/-- The node that a name was given to is complete, unless the name has been given away since. -/
def closeAnchor (p : Properties) (n : Node) : Reading Unit :=
  match p.anchor with
  | some name =>
    modify fun s => { s with anchors := s.anchors.map fun (key, held) =>
      if key == name && held.isNone then (key, some n) else (key, held) }
  | none => return

/-- A node from its parts: one level above the deepest. -/
def above (d : Data) (parts : List Node) : Node :=
  ⟨d, parts.foldl (fun m n => max m n.depth) 0 + 1, parts.foldl (fun m n => m + n.jumps) 0⟩

def listNode (items : List Node) : Node :=
  above (.sequence (items.map (·.data))) items

def mapNode (entries : List (Node × Node)) : Node :=
  above (.mapping (entries.map fun (k, v) => (k.data, v.data)))
    (entries.flatMap fun (k, v) => [k, v])

/-- The node that an alias names. -/
def aliasNode (name : String) : Reading Node := do
  count 1
  match (← get).anchors.find? (·.1 == name) with
  | some (_, some n) => return { n with jumps := n.jumps + 1 }
  | _ => failure

/-- The node of a collection under its tag. -/
def collection (p : Properties) (n : Node) : Reading Node := do
  count 2
  let n := { n with data := ← tagged p.tag n.data }
  closeAnchor p n
  return n

mutual

/-- A node.  Block collections are allowed where `inBlock`; where `indentless`, a list may start at
a dash without growing indentation. -/
def node (inBlock indentless : Bool) : Nat → Reading Node
  | 0 => failure
  | fuel + 1 => do
    if let some (.alias name) ← peek then
      drop
      return ← aliasNode name
    let p ← properties
    openAnchor p
    match ← peek, inBlock, indentless with
    | some (.scalar text isPlain), _, _ =>
      drop
      count 1
      let n : Node := ⟨← scalar p.tag text isPlain, 0, 0⟩
      closeAnchor p n
      return n
    | some .openBracket, _, _ => drop; collection p (listNode (← bracketItems true [] fuel))
    | some .openBrace, _, _ => drop; collection p (mapNode (← braceEntries true [] fuel))
    | some .openItems, true, _ => drop; collection p (listNode (← items [] fuel))
    | some .openEntries, true, _ => drop; collection p (mapNode (← entries [] fuel))
    | some .dash, _, true => collection p (listNode (← indentlessItems [] fuel))
    | _, _, _ =>
      if p.anchor.isNone && p.tag.isNone then failure
      count 1
      let content ← match p.tag with
        | some "!" => failure
        | tag => scalar tag "" true
      let n : Node := ⟨content, 0, 0⟩
      closeAnchor p n
      return n

/-- A node, or an empty one before any of some words. -/
def nodeUnless (stops : List Token) (inBlock indentless : Bool) : Nat → Reading Node
  | 0 => failure
  | fuel + 1 => do
    if ← endsAt stops then emptyNode else node inBlock indentless fuel

/-- The items of a block list, up to its end. -/
def items (done : List Node) : Nat → Reading (List Node)
  | 0 => failure
  | fuel + 1 => do
    match ← peek with
    | some .dash =>
      drop
      let n ← nodeUnless [.dash, .close] true false fuel
      items (n :: done) fuel
    | some .close => drop; return done.reverse
    | _ => failure

/-- The items of a list that ends where the dashes do. -/
def indentlessItems (done : List Node) : Nat → Reading (List Node)
  | 0 => failure
  | fuel + 1 => do
    match ← peek with
    | some .dash =>
      drop
      let n ← nodeUnless [.dash, .key, .value, .close] true false fuel
      indentlessItems (n :: done) fuel
    | _ => return done.reverse

/-- The entries of a block map, up to its end. -/
def entries (done : List (Node × Node)) : Nat → Reading (List (Node × Node))
  | 0 => failure
  | fuel + 1 => do
    match ← peek with
    | some .key =>
      drop
      let k ← nodeUnless [.key, .value, .close] true true fuel
      let v ← entryValue [.key, .value, .close] true fuel
      entries ((k, v) :: done) fuel
    | some .close => drop; return done.reverse
    | _ => failure

/-- The value of an entry: what follows the word `value`, if it is there. -/
def entryValue (stops : List Token) (inBlock : Bool) : Nat → Reading Node
  | 0 => failure
  | fuel + 1 => do
    match ← peek with
    | some .value => drop; nodeUnless stops inBlock inBlock fuel
    | _ => emptyNode

/-- The items of a list in brackets, up to its end.  A key makes a map of one entry. -/
def bracketItems (isFirst : Bool) (done : List Node) : Nat → Reading (List Node)
  | 0 => failure
  | fuel + 1 => do
    if let some .closeBracket ← peek then
      drop
      return done.reverse
    if !isFirst then
      match ← peek with
      | some .comma => drop
      | _ => failure
    match ← peek with
    | some .closeBracket => drop; return done.reverse
    | some .key =>
      drop
      let stops : List Token := [.comma, .closeBracket]
      -- A word that ends an empty key here is passed over with it.
      let k ← if ← endsAt (.value :: stops) then do drop; emptyNode else node false false fuel
      let v ← entryValue stops false fuel
      count 2
      bracketItems false (mapNode [(k, v)] :: done) fuel
    | _ => bracketItems false ((← node false false fuel) :: done) fuel

/-- The entries of a map in braces, up to its end.  A key may stand alone. -/
def braceEntries (isFirst : Bool) (done : List (Node × Node)) :
    Nat → Reading (List (Node × Node))
  | 0 => failure
  | fuel + 1 => do
    if let some .closeBrace ← peek then
      drop
      return done.reverse
    if !isFirst then
      match ← peek with
      | some .comma => drop
      | _ => failure
    match ← peek with
    | some .closeBrace => drop; return done.reverse
    | some .key =>
      drop
      let k ← nodeUnless [.value, .comma, .closeBrace] false false fuel
      let v ← entryValue [.comma, .closeBrace] false fuel
      braceEntries false ((k, v) :: done) fuel
    | _ =>
      let k ← node false false fuel
      braceEntries false ((k, ← emptyNode) :: done) fuel

end

/-- The directives before a document.  At most one gives a version, and no handle is defined
twice. -/
def directives (hasVersion : Bool) (defined : List String) : Nat → Reading Unit
  | 0 => failure
  | fuel + 1 => do
    match ← peek with
    | some (.version major minor) =>
      if hasVersion || major ≠ 1 || (minor ≠ 1 && minor ≠ 2) then failure
      drop
      directives true defined fuel
    | some (.tagHandle handle expansion) =>
      if defined.contains handle then failure
      drop
      modify fun p => { p with handles := (handle, expansion) :: p.handles }
      directives hasVersion (handle :: defined) fuel
    | _ => return

/-- True for the words that can only stand between documents. -/
def isBoundary : Token → Bool
  | .version .. => true
  | .tagHandle .. => true
  | .documentStart => true
  | .documentEnd => true
  | _ => false

/-- The only document of a stream. -/
def document (fuel : Nat) : Reading Node := do
  let root ← match ← peek with
    | none => emptyNode
    | some .documentEnd => failure
    | some t =>
      if isBoundary t then
        directives false [] fuel
        match ← peek with
        | some .documentStart => drop
        | _ => failure
        match ← peek with
        | none => emptyNode
        | some t => if isBoundary t then emptyNode else node true false fuel
      else node true false fuel
  modify fun p => { p with words := p.words.dropWhile (· == .documentEnd) }
  if (← peek).isSome then failure
  return root

/-- The data of a text with one document. -/
def parse? (s : String) : Option Data := do
  let words ← lex? s
  let (root, progress) ← (document (8 * words.length + 8)).run { words }
  if root.depth > depthLimit || root.jumps > copiesPerNode * progress.events then none
  return root.data

end HeaderAbi.Yaml
