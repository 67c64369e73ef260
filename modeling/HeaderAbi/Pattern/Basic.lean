import HeaderAbi.Pattern.CharSet

/-!
# Patterns

A `Pattern` describes texts.  `advance` is what it means: from a set of positions of a text, it
gives the positions at which a match that starts in the set can end.  A set of positions is a list of
truth values, one for each gap between characters and one for either end, so a text of `n`
characters has `n + 1` of them.

A pattern `occursIn` a text when some match starts anywhere.
-/

namespace HeaderAbi

namespace Pattern

/-- A condition on a position. -/
inductive Assertion where
  | textStart
  | textEnd
  | lineStart (crlf : Bool)
  | lineEnd (crlf : Bool)
  /-- A word starts or ends here; `unicode` tells which characters make words. -/
  | wordBoundary (unicode : Bool)
  | noWordBoundary (unicode : Bool)
  | wordStart (unicode : Bool)
  | wordEnd (unicode : Bool)
  /-- No word character stands before. -/
  | wordStartHalf (unicode : Bool)
  /-- No word character stands after. -/
  | wordEndHalf (unicode : Bool)
deriving DecidableEq, Inhabited

namespace Assertion

def isWord (unicode : Bool) : Option Char → Bool
  | none => false
  | some c => if unicode then CharSet.contains (.having .word) c else CharSet.asciiWord.contains c

/-- The condition holds between a character and the next one. -/
def holds (a : Assertion) (before after : Option Char) : Bool :=
  match a with
  | .textStart => before.isNone
  | .textEnd => after.isNone
  | .lineStart crlf =>
    before.isNone || before == some '\n' ||
      (crlf && before == some '\x0d' && after ≠ some '\n')
  | .lineEnd crlf =>
    after.isNone || (crlf && after == some '\x0d') ||
      (after == some '\n' && !(crlf && before == some '\x0d'))
  | .wordBoundary u => isWord u before != isWord u after
  | .noWordBoundary u => isWord u before == isWord u after
  | .wordStart u => !isWord u before && isWord u after
  | .wordEnd u => isWord u before && !isWord u after
  | .wordStartHalf u => !isWord u before
  | .wordEndHalf u => !isWord u after

end Assertion

end Pattern

/-- A regular expression. -/
inductive Pattern where
  /-- The empty text. -/
  | empty
  /-- One character of a set. -/
  | one (s : Pattern.CharSet)
  | assert (a : Pattern.Assertion)
  | seq (p q : Pattern)
  | either (p q : Pattern)
  /-- At least `least` times and at most `most` times, if there is a bound. -/
  | times (p : Pattern) (least : Nat) (most : Option Nat)
deriving DecidableEq, Inhabited

namespace Pattern

/-- A set of positions of a text. -/
abbrev Positions := List Bool

def Positions.or (s t : Positions) : Positions := List.zipWith (· || ·) s t

/-- The positions right after a character of the set that stands at a given position. -/
def step (s : CharSet) (text : List Char) (from_ : Positions) : Positions :=
  false :: List.zipWith (fun b c => b && s.contains c) from_ text

/-- The given positions at which a condition holds; `before` is the character in front of them. -/
def check (a : Assertion) (before : Option Char) : List Char → Positions → Positions
  | _, [] => []
  | [], b :: bs => (b && a.holds before none) :: bs
  | c :: cs, b :: bs => (b && a.holds before (some c)) :: check a (some c) cs bs

/-- Apply a function a number of times; it stops early where the function changes nothing. -/
def iterate {α : Type} [DecidableEq α] (f : α → α) : Nat → α → α
  | 0, a => a
  | n + 1, a => if f a = a then a else iterate f n (f a)

/-- The positions at which matches that start at the given ones can end.  No more repetitions are
tried than twice the length of the text and two: beyond that nothing new is reached. -/
def advance (text : List Char) : Pattern → Positions → Positions
  | .empty, from_ => from_
  | .one s, from_ => step s text from_
  | .assert a, from_ => check a none text from_
  | .seq p q, from_ => q.advance text (p.advance text from_)
  | .either p q, from_ => (p.advance text from_).or (q.advance text from_)
  | .times p least most, from_ =>
    let enough := 2 * text.length + 2
    let least := min least enough
    let optional := match most with
      | some m => min (m - least) enough
      | none => enough
    let reached := iterate (p.advance text) least from_
    iterate (fun s => s.or (p.advance text s)) optional reached

/-- Some part of the text matches. -/
def occursIn (p : Pattern) (text : String) : Bool :=
  let cs := text.toList
  (p.advance cs (List.replicate (cs.length + 1) true)).any id

/-- The number of single steps that a pattern unfolds into. -/
def weight : Pattern → Nat
  | .empty => 1
  | .one s => s.weight
  | .assert _ => 1
  | .seq p q => p.weight + q.weight
  | .either p q => p.weight + q.weight + 1
  | .times p least most => p.weight * max 1 (max least (most.getD 1)) + 1

end Pattern

end HeaderAbi
