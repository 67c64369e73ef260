import HeaderAbi.Json.Token

/-!
# Reading JSON

`parse?` turns a text into data.  The reader keeps a stack of the lists and objects that are open;
opening more than `limit` of them at once is an error.  A key that occurs twice in an object keeps
its first place and its last value.
-/

namespace HeaderAbi.Json

/-- A list or object that is still open. -/
inductive Frame where
  /-- The items so far, last first. -/
  | list (done : List Data)
  /-- The fields so far and the key whose value is due. -/
  | object (done : List (String × Data)) (key : String)

/-- What may come next. -/
inductive Expected where
  | value
  /-- A value, or the end of the list that was just opened. -/
  | firstItem
  /-- A key, or the end of the object that was just opened. -/
  | firstKey
  | key
  | colon (key : String)
  /-- A comma or the end of what is open. -/
  | separator
  /-- Nothing: the text is one value. -/
  | finish (result : Data)

/-- The reader between two words. -/
structure State where
  stack : List Frame
  expected : Expected

/-- The number of lists and objects that may be open at once. -/
def nestingLimit : Nat := 127

/-- A value is complete: it joins the list or object it stands in. -/
def deliver (stack : List Frame) (d : Data) : State :=
  match stack with
  | [] => ⟨[], .finish d⟩
  | .list done :: rest => ⟨.list (d :: done) :: rest, .separator⟩
  | .object done key :: rest =>
    ⟨.object (Data.putField done key d) key :: rest, .separator⟩

/-- Read one word. -/
def advance? (limit : Nat) (state : State) (t : Token) : Option State :=
  let openList : Option State :=
    if state.stack.length < limit then some ⟨.list [] :: state.stack, .firstItem⟩ else none
  let openObject : Option State :=
    if state.stack.length < limit then some ⟨.object [] "" :: state.stack, .firstKey⟩ else none
  match state.expected, t with
  | .value, .atom d => some (deliver state.stack d)
  | .value, .text s => some (deliver state.stack (.text s))
  | .value, .openList => openList
  | .value, .openObject => openObject
  | .firstItem, .atom d => some (deliver state.stack d)
  | .firstItem, .text s => some (deliver state.stack (.text s))
  | .firstItem, .openList => openList
  | .firstItem, .openObject => openObject
  | .firstItem, .closeList =>
    match state.stack with
    | .list _ :: rest => some (deliver rest (.list []))
    | _ => none
  | .firstKey, .text k => some { state with expected := .colon k }
  | .firstKey, .closeObject =>
    match state.stack with
    | .object _ _ :: rest => some (deliver rest (.object []))
    | _ => none
  | .key, .text k => some { state with expected := .colon k }
  | .colon k, .colon =>
    match state.stack with
    | .object done _ :: rest => some ⟨.object done k :: rest, .value⟩
    | _ => none
  | .separator, .comma =>
    match state.stack with
    | .list _ :: _ => some { state with expected := .value }
    | .object _ _ :: _ => some { state with expected := .key }
    | [] => none
  | .separator, .closeList =>
    match state.stack with
    | .list done :: rest => some (deliver rest (.list done.reverse))
    | _ => none
  | .separator, .closeObject =>
    match state.stack with
    | .object done _ :: rest => some (deliver rest (.object done))
    | _ => none
  | _, _ => none

/-- The value that a sequence of words spells. -/
def assemble? (limit : Nat) (words : List Token) : Option Data := do
  let state ← words.foldlM (advance? limit) ⟨[], .value⟩
  match state.expected with
  | .finish d => some d
  | _ => none

/-- The value of a text with at most `limit` levels of nesting. -/
def parseWithin? (limit : Nat) (s : String) : Option Data := do
  assemble? limit (← lex? s)

/-- The value of a text. -/
def parse? (s : String) : Option Data :=
  parseWithin? nestingLimit s

end HeaderAbi.Json
