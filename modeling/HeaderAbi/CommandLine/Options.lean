import HeaderAbi.CommandLine.Word

/-!
# Options

`OptionForm` says how an option is written.  `scan` reads the arguments of one level of a command
line: the options that were given, with their values, and the plain words.

Plain words that stand together form a run.  A command may ask that every run has a least length, so
the runs are kept apart.
-/

namespace HeaderAbi.CommandLine

/-- How an option is written. -/
structure OptionForm where
  name : String
  letter : Option Char := none
  takesValue : Bool := true
  /-- The option may be given more than once. -/
  repeats : Bool := false
  /-- The values that the option takes. -/
  accepts : String → Bool := fun _ => true

/-- Why there is nothing to do. -/
inductive Refusal where
  /-- The arguments make no command. -/
  | usage
  /-- The user asks for help. -/
  | help
  /-- The user asks for the version. -/
  | version
deriving DecidableEq, Inhabited

/-- What was given on one level. -/
structure Given where
  /-- Options with their values, last one first; the value of a switch is empty. -/
  options : List (String × String) := []
  /-- Runs of plain words, last run first. -/
  runs : List (List String) := []
  /-- The last argument was a plain word. -/
  inRun : Bool := false
deriving DecidableEq, Inhabited

namespace Given

def has (g : Given) (name : String) : Bool := g.options.any (·.1 == name)

/-- The values of an option in the order in which they were given. -/
def values (g : Given) (name : String) : List String :=
  (g.options.reverse.filter (·.1 == name)).map (·.2)

def value? (g : Given) (name : String) : Option String := (g.values name).head?

/-- The plain words in order. -/
def words (g : Given) : List String := g.runs.reverse.flatten

/-- Take an option in, if its value is one and if it may be given (again).  Asking for help or for
the version ends everything. -/
def addOption (g : Given) (f : OptionForm) (value : String) : Except Refusal Given :=
  if f.name == "help" then .error .help
  else if f.name == "version" then .error .version
  else if (f.takesValue && !f.accepts value) || (g.has f.name && !f.repeats) then .error .usage
  else .ok { g with options := (f.name, value) :: g.options, inRun := false }

def addSwitches (g : Given) (forms : List OptionForm) : Except Refusal Given :=
  forms.foldlM (fun g f => g.addOption f "") g

def addWord (g : Given) (word : String) : Given :=
  match g.inRun, g.runs with
  | true, run :: runs => { g with runs := (run ++ [word]) :: runs }
  | _, runs => { g with runs := [word] :: runs, inRun := true }

end Given

/-- What the rest of an argument after a letter holds; an equals sign before a value does not
count. -/
def attached? : List Char → Option String
  | [] => none
  | '=' :: rest => some (String.ofList rest)
  | rest => some (String.ofList rest)

/-- The options that a group of letters names: switches, and at the end perhaps an option with a
value, which may stand in the same argument.  The flag says whether all letters name options. -/
def readLetters (forms : List OptionForm) :
    List Char → List OptionForm × Option (OptionForm × Option String) × Bool
  | [] => ([], none, true)
  | c :: rest =>
    match forms.find? (·.letter == some c) with
    | none => ([], none, false)
    | some f =>
      if f.takesValue then ([], some (f, attached? rest), true)
      else
        let (switches, last, known) := readLetters forms rest
        (f :: switches, last, known)

/-- Read arguments.  With `stop`, reading ends before the first plain word; the rest is returned. -/
def scan (forms : List OptionForm) (stop : Bool) :
    List String → Given → Except Refusal (Given × List String)
  | [], g => .ok (g, [])
  | argument :: rest, g =>
    match Word.ofArgument argument with
    | .terminator => if stop then .error .usage else .ok (rest.foldl Given.addWord g, [])
    | .plain word =>
      if stop then .ok (g, argument :: rest) else scan forms stop rest (g.addWord word)
    | .long name value =>
      match forms.find? (·.name == name) with
      | none => .error .usage
      | some f =>
        match f.takesValue, value, rest with
        | false, some _, _ => .error .usage
        | false, none, rest => do scan forms stop rest (← g.addOption f "")
        | true, some v, rest => do scan forms stop rest (← g.addOption f v)
        | true, none, [] => .error .usage
        | true, none, next :: rest =>
          match Word.ofArgument next with
          | .plain v => do scan forms stop rest (← g.addOption f v)
          | _ => .error .usage
    | .letters letters => do
      let (switches, last, known) := readLetters forms letters
      let g ← g.addSwitches switches
      if !known then throw .usage
      match last, rest with
      | none, rest => scan forms stop rest g
      | some (f, some v), rest => scan forms stop rest (← g.addOption f v)
      | some _, [] => throw .usage
      | some (f, none), next :: rest =>
        match Word.ofArgument next with
        | .plain v => scan forms stop rest (← g.addOption f v)
        | _ => throw .usage

end HeaderAbi.CommandLine
