import HeaderAbi.Data.Decode

/-!
# Access and linkage

Who may name a member, and which binaries see a symbol.
-/

namespace HeaderAbi

/-- Access to a member. -/
inductive Access where
  | everyone
  | derived
  | owner
deriving DecidableEq, Inhabited

namespace Access

def word : Access → String
  | .everyone => "public"
  | .derived => "protected"
  | .owner => "private"

def all : List Access := [.everyone, .derived, .owner]

def toData (a : Access) : Data := .text a.word

def ofData? (d : Data) : Option Access := d.asName? (all.map fun a => (a.word, a))

end Access

/-- Linkage of a symbol. -/
inductive Linkage where
  | internal
  | external
  | weak
deriving DecidableEq, Inhabited

namespace Linkage

def word : Linkage → String
  | .internal => "internal"
  | .external => "external"
  | .weak => "weak"

def all : List Linkage := [.internal, .external, .weak]

/-- Other binaries see external and weak symbols. -/
def isVisible : Linkage → Bool
  | .internal => false
  | .external => true
  | .weak => true

def toData (l : Linkage) : Data := .text l.word

def ofData? (d : Data) : Option Linkage := d.asName? (all.map fun l => (l.word, l))

end Linkage

end HeaderAbi
