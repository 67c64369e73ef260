import HeaderAbi.Text.Blank

/-!
# Identifiers

A `Uid` names an entity within its category.  It is built from names alone: the qualified name, the
template arguments of an instantiation, the parameter types of a function.  Unchanged headers
therefore give unchanged identifiers, whatever the order of their declarations.
-/

namespace HeaderAbi

open Text

/-- The identifier of an entity within its category. -/
structure Uid where
  /-- The identifier as written. -/
  text : String
deriving DecidableEq, Inhabited, Hashable

namespace Uid

instance : ToString Uid := ⟨Uid.text⟩

/-- The identifier of a plain record, enum or variable: its name, trimmed. -/
def ofName (name : String) : Uid :=
  ⟨trim name⟩

/-- The identifier of a template instantiation, `name<arg, arg>`.  Without arguments it is that of
the plain name. -/
def ofInstantiation (name : String) (arguments : List String) : Uid :=
  if arguments.isEmpty then ofName name
  else ⟨trim name ++ "<" ++ ", ".intercalate (arguments.map trim) ++ ">"⟩

/-- The identifier of a function, `name(param, param)`; a variadic one ends in `...`. -/
def ofFunction (name : String) (parameters : List String) (variadic : Bool) : Uid :=
  let shown := parameters.map trim ++ if variadic then ["..."] else []
  ⟨trim name ++ "(" ++ ", ".intercalate shown ++ ")"⟩

/-- What stands before the first opening parenthesis; the whole identifier when there is none. -/
def baseName (u : Uid) : String :=
  String.ofList (u.text.toList.takeWhile (· != '('))

def isEmpty (u : Uid) : Bool :=
  u.text.isEmpty

/-- The order of identifiers in dumps and reports: by code point, which is also the order of their
UTF-8 bytes. -/
def le (a b : Uid) : Bool :=
  decide (a.text ≤ b.text)

end Uid

end HeaderAbi
