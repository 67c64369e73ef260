import HeaderAbi.TypeRef.Basic

/-!
# Spellings of types

`TypeRef.spelling` writes a use of a type the way a declaration would: `const char *`, `int &`,
`int[4]`, and `void (*)(int)` for a callback.  `Signature.spelling` writes a function type, and is
the identifier that a use of this function type carries.
-/

namespace HeaderAbi

namespace Indirection

def spelling : Indirection → String
  | .pointer q => "*" ++ String.join (q.words.map (" " ++ ·))
  | .lvalueReference => "&"
  | .rvalueReference => "&&"

end Indirection

/-- An array extent in brackets. -/
def extentSpelling : Option UInt64 → String
  | some n => "[" ++ toString n ++ "]"
  | none => "[]"

namespace TypeUse

/-- The array extents, one after the other. -/
def extentsSpelling (u : TypeUse) : String :=
  String.join (u.extents.map extentSpelling)

/-- The declarator inside parentheses: levels of indirection with a blank between them. -/
def innerDeclarator (u : TypeUse) : String :=
  " ".intercalate (u.indirection.map Indirection.spelling) ++ u.extentsSpelling

/-- The declarator after a type: each level of indirection after a blank. -/
def outerDeclarator (u : TypeUse) : String :=
  String.join (u.indirection.map fun i => " " ++ i.spelling) ++ u.extentsSpelling

/-- A use of a type known by its identifier. -/
def spelling (u : TypeUse) : String :=
  String.join (u.qualifiers.words.map (· ++ " ")) ++ u.uid.text ++ u.outerDeclarator

end TypeUse

/-- The parameters of a signature, with `...` last when more may follow. -/
def parameterList (parameters : List String) (variadic : Bool) : String :=
  ", ".intercalate (parameters ++ if variadic then ["..."] else [])

/-- A convention after a signature; the C convention goes without saying. -/
def conventionSuffix (c : CallingConvention) : String :=
  if c = .cdecl then "" else " [" ++ c.spelling ++ "]"

namespace TypeRef

mutual

/-- The use as a declaration spells it.  A function type that is decorated is spelled around its
declarator; its own qualifiers are not written.  A bare one is its identifier. -/
def spelling : TypeRef → String
  | .named u => u.spelling
  | .function u r ps v c =>
    if u.isBare then u.spelling
    else
      spelling r ++ " (" ++ u.innerDeclarator ++ ")(" ++ parameterList (spellings ps) v ++ ")" ++
        conventionSuffix c

def spellings : List TypeRef → List String
  | [] => []
  | t :: ts => spelling t :: spellings ts

end

theorem spellings_eq_map (ts : List TypeRef) : spellings ts = ts.map spelling := by
  induction ts with
  | nil => rfl
  | cons t ts ih => simp [spellings, ih]

end TypeRef

namespace Signature

/-- A function type without declarator. -/
def spelling (s : Signature) : String :=
  s.result.spelling ++ " (" ++ parameterList (s.parameters.map TypeRef.spelling) s.variadic ++
    ")" ++ conventionSuffix s.convention

/-- The identifier of a function type. -/
def uid (s : Signature) : Uid := ⟨s.spelling⟩

end Signature

namespace TypeRef

/-- The use of a function type, under the identifier its signature gives it. -/
def ofSignature (s : Signature) : TypeRef :=
  .function ⟨s.uid, {}, [], []⟩ s.result s.parameters s.variadic s.convention

end TypeRef

end HeaderAbi
