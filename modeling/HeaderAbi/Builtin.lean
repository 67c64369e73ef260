import HeaderAbi.Text.Blank

/-!
# Fundamental types

Every snapshot knows these types without declaring them.  A size is given only where all mainstream
binary interfaces agree on it; `long`, `wchar_t`, `long double` and the pointer-sized aliases have
none.
-/

namespace HeaderAbi

/-- A fundamental type. -/
structure Builtin where
  name : String
  sizeBits : Option UInt64

namespace Builtin

/-- Every fundamental type, under the one name that snapshots use for it. -/
def all : List Builtin := [
  ⟨"void", none⟩, ⟨"bool", some 8⟩, ⟨"_Bool", some 8⟩, ⟨"char", some 8⟩,
  ⟨"signed char", some 8⟩, ⟨"unsigned char", some 8⟩, ⟨"wchar_t", none⟩, ⟨"char8_t", some 8⟩,
  ⟨"char16_t", some 16⟩, ⟨"char32_t", some 32⟩, ⟨"short", some 16⟩, ⟨"unsigned short", some 16⟩,
  ⟨"int", some 32⟩, ⟨"unsigned int", some 32⟩, ⟨"long", none⟩, ⟨"unsigned long", none⟩,
  ⟨"long long", some 64⟩, ⟨"unsigned long long", some 64⟩, ⟨"__int128", some 128⟩,
  ⟨"unsigned __int128", some 128⟩, ⟨"_Float16", some 16⟩, ⟨"__bf16", some 16⟩,
  ⟨"float", some 32⟩, ⟨"double", some 64⟩, ⟨"long double", none⟩, ⟨"std::nullptr_t", none⟩,
  ⟨"int8_t", some 8⟩, ⟨"uint8_t", some 8⟩, ⟨"int16_t", some 16⟩, ⟨"uint16_t", some 16⟩,
  ⟨"int32_t", some 32⟩, ⟨"uint32_t", some 32⟩, ⟨"int64_t", some 64⟩, ⟨"uint64_t", some 64⟩,
  ⟨"size_t", none⟩, ⟨"ssize_t", none⟩, ⟨"ptrdiff_t", none⟩, ⟨"intptr_t", none⟩,
  ⟨"uintptr_t", none⟩]

/-- Other spellings in use, each with the name it stands for. -/
def aliases : List (String × String) := [
  ("signed", "int"), ("signed int", "int"), ("unsigned", "unsigned int"), ("short int", "short"),
  ("signed short", "short"), ("signed short int", "short"), ("short signed int", "short"),
  ("unsigned short int", "unsigned short"), ("short unsigned int", "unsigned short"),
  ("long int", "long"), ("signed long", "long"), ("signed long int", "long"),
  ("long signed int", "long"), ("unsigned long int", "unsigned long"),
  ("long unsigned int", "unsigned long"), ("long long int", "long long"),
  ("signed long long", "long long"), ("long long signed int", "long long"),
  ("unsigned long long int", "unsigned long long"),
  ("long long unsigned int", "unsigned long long"), ("__int128_t", "__int128"),
  ("__uint128_t", "unsigned __int128"), ("nullptr_t", "std::nullptr_t"),
  ("decltype(nullptr)", "std::nullptr_t"), ("std::size_t", "size_t"),
  ("std::ptrdiff_t", "ptrdiff_t"), ("std::int8_t", "int8_t"), ("std::uint8_t", "uint8_t"),
  ("std::int16_t", "int16_t"), ("std::uint16_t", "uint16_t"), ("std::int32_t", "int32_t"),
  ("std::uint32_t", "uint32_t"), ("std::int64_t", "int64_t"), ("std::uint64_t", "uint64_t"),
  ("std::intptr_t", "intptr_t"), ("std::uintptr_t", "uintptr_t")]

/-- The fundamental type of that exact name. -/
def lookup (name : String) : Option Builtin :=
  all.find? (·.name == name)

def isBuiltin (name : String) : Bool :=
  (lookup name).isSome

/-- The name that snapshots use for a spelling of a fundamental type; runs of blanks in the spelling
count as one space. -/
def canonicalName (spelling : String) : Option String :=
  let normal := " ".intercalate (Text.words spelling)
  match lookup normal with
  | some b => some b.name
  | none => (aliases.find? (·.1 == normal)).map (·.2)

/-- The size of the named type in bits; zero when it is unknown or no fundamental type. -/
def sizeOf (name : String) : UInt64 :=
  ((lookup name).bind (·.sizeBits)).getD 0

end Builtin

end HeaderAbi
