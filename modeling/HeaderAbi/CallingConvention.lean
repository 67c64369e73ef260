import HeaderAbi.Data.Decode
import HeaderAbi.Text.Blank

/-!
# Calling conventions

The conventions with a meaning of their own, and `other` for any further spelling a compiler
reports.
-/

namespace HeaderAbi

/-- The calling convention of a function or function type. -/
inductive CallingConvention where
  | cdecl
  | stdCall
  | fastCall
  | thisCall
  | vectorCall
  | regCall
  | win64
  | sysV64
  | aapcs
  | aapcsVfp
  | other (spelling : String)
deriving DecidableEq, Inhabited

namespace CallingConvention

/-- The convention of a compiler's spelling.  Blanks around it, leading underscores and the case of
its letters make no difference.  Every spelling in the table is ASCII and no other letter has one of
its letters as lower case, so lowering ASCII alone decides. -/
def ofSpelling (spelling : String) : CallingConvention :=
  let bare := String.ofList ((Text.trimChars spelling.toList).dropWhile (· == '_'))
  match Text.lowerAscii bare with
  | "" | "c" | "cdecl" | "default" => .cdecl
  | "stdcall" => .stdCall
  | "fastcall" => .fastCall
  | "thiscall" => .thisCall
  | "vectorcall" => .vectorCall
  | "regcall" => .regCall
  | "win64" | "ms_abi" => .win64
  | "sysv64" | "sysv_abi" | "x86_64_sysv" => .sysV64
  | "aapcs" => .aapcs
  | "aapcs_vfp" | "aapcs-vfp" => .aapcsVfp
  | _ => .other (Text.trim spelling)

/-- The spelling in signatures and messages. -/
def spelling : CallingConvention → String
  | .cdecl => "cdecl"
  | .stdCall => "stdcall"
  | .fastCall => "fastcall"
  | .thisCall => "thiscall"
  | .vectorCall => "vectorcall"
  | .regCall => "regcall"
  | .win64 => "win64"
  | .sysV64 => "sysv64"
  | .aapcs => "aapcs"
  | .aapcsVfp => "aapcs-vfp"
  | .other s => s

/-- The names of the conventions without a spelling of their own, as dumps write them. -/
def names : List (String × CallingConvention) := [
  ("c", .cdecl), ("std_call", .stdCall), ("fast_call", .fastCall), ("this_call", .thisCall),
  ("vector_call", .vectorCall), ("reg_call", .regCall), ("win64", .win64), ("sys_v64", .sysV64),
  ("aapcs", .aapcs), ("aapcs_vfp", .aapcsVfp)]

def toData : CallingConvention → Data
  | .other s => .tagged "other" (.text s)
  | convention => .text (((names.find? (·.2 == convention)).map (·.1)).getD "c")

def ofData? (d : Data) : Option CallingConvention :=
  match d.variant? with
  | some ("other", some content) => content.asText?.map .other
  | _ => d.asName? names

end CallingConvention

end HeaderAbi
