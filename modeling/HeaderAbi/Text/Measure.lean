/-!
# Measures of text

How wide texts are depends on what shows them.  A `Measure` is what the layout of a table asks for:
the cells of a text, and those of a single character.
-/

namespace HeaderAbi

/-- The cells that texts take on a terminal. -/
structure Measure where
  /-- Neighbours may be shown as one symbol, so this need not be the sum over the characters. -/
  text : String → Nat
  /-- None for a control character, which is no symbol by itself. -/
  char : Char → Option Nat

namespace Measure

/-- The cells counted for a character, none for a control character. -/
def cells (m : Measure) (c : Char) : Nat := (m.char c).getD 0

/-- Every character of a text takes one cell. -/
def uniform : Measure where
  text := String.length
  char c := if c.toNat < 0x20 || (0x7F ≤ c.toNat && c.toNat < 0xA0) then none else some 1

instance : Inhabited Measure := ⟨uniform⟩

end Measure

end HeaderAbi
