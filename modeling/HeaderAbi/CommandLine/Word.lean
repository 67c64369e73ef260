/-!
# Words of a command line

An argument is an option or a plain word, by its dashes alone: `--name` or `--name=value`, `-abc`
for letters, `--` for the end of the options.  A single dash is a plain word.
-/

namespace HeaderAbi.CommandLine

/-- An argument by its form. -/
inductive Word where
  /-- Everything after it is plain. -/
  | terminator
  | long (name : String) (value : Option String)
  | letters (letters : List Char)
  | plain (text : String)
deriving DecidableEq, Inhabited

namespace Word

/-- A name and what follows the first equals sign. -/
def splitValue (cs : List Char) : String × Option String :=
  let name := cs.takeWhile (· != '=')
  match cs.dropWhile (· != '=') with
  | [] => (String.ofList name, none)
  | _ :: value => (String.ofList name, some (String.ofList value))

def ofArgument (argument : String) : Word :=
  match argument.toList with
  | ['-', '-'] => .terminator
  | '-' :: '-' :: rest => let (name, value) := splitValue rest; .long name value
  | '-' :: c :: rest => .letters (c :: rest)
  | _ => .plain argument

end Word

end HeaderAbi.CommandLine
