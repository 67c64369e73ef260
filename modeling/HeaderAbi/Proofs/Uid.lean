import HeaderAbi.Uid
import Mathlib.Data.List.TakeWhile

/-!
# Base names

The base name of a function is read off its identifier again.  The list of its parameters starts
with a parenthesis, and so does part of some names: call operators, conversions to function types,
instantiations for them.

* **The base name is the start of the name up to its first parenthesis**, whatever the parameters
  are, and so the whole name exactly when it has no parenthesis (`baseName_ofFunction`).
-/

namespace HeaderAbi

/-! ### Trimming -/

namespace Text

theorem mem_dropWhile_iff {α : Type} {p : α → Bool} {a : α} (h : p a = false) (as : List α) :
    a ∈ as.dropWhile p ↔ a ∈ as := by
  constructor
  case mp => exact fun hmem => (List.dropWhile_sublist p).mem hmem
  case mpr =>
    intro hmem
    rw [← List.takeWhile_append_dropWhile (p := p) (l := as), List.mem_append] at hmem
    rcases hmem with htaken | hleft
    · have hp := List.mem_takeWhile_imp htaken
      exact absurd (h.symm.trans hp) Bool.false_ne_true
    · exact hleft

/-- Trimming drops nothing but blanks. -/
theorem mem_trim_iff {c : Char} (h : isBlank c = false) (s : String) :
    c ∈ (trim s).toList ↔ c ∈ s.toList := by
  rw [trim, String.toList_ofList, trimChars, List.mem_reverse, mem_dropWhile_iff h,
    List.mem_reverse, mem_dropWhile_iff h]

end Text

/-! ### Base names -/

namespace Uid

open Text

theorem toList_ofFunction (name : String) (parameters : List String) (variadic : Bool) :
    (ofFunction name parameters variadic).text.toList = (trim name).toList ++ '(' ::
      (", ".intercalate (parameters.map trim ++ if variadic then ["..."] else [])).toList ++
      [')'] := by
  simp [ofFunction]

theorem takeWhile_append_paren (cs rest : List Char) :
    (cs ++ '(' :: rest).takeWhile (· != '(') = cs.takeWhile (· != '(') := by
  induction cs with
  | nil => rfl
  | cons c cs ih => rw [List.cons_append, List.takeWhile_cons, List.takeWhile_cons, ih]

/-- Parameters never reach into the base name. -/
theorem toList_baseName_ofFunction (name : String) (parameters : List String) (variadic : Bool) :
    (ofFunction name parameters variadic).baseName.toList =
      (trim name).toList.takeWhile (· != '(') := by
  rw [baseName, String.toList_ofList, toList_ofFunction, List.append_assoc, List.cons_append,
    takeWhile_append_paren]

theorem not_mem_baseName (u : Uid) : '(' ∉ u.baseName.toList := by
  rw [baseName, String.toList_ofList]
  intro hmem
  have hother := List.mem_takeWhile_imp hmem
  exact absurd hother (by decide)

/-- What follows the base name in a name starts with a parenthesis. -/
theorem eq_nil_or_cons_of_dropWhile (cs : List Char) :
    cs.dropWhile (· != '(') = [] ∨ ∃ rest, cs.dropWhile (· != '(') = '(' :: rest := by
  cases hrest : cs.dropWhile (· != '(') with
  | nil => exact .inl rfl
  | cons c rest =>
    have hhead := List.head?_dropWhile_not (· != '(') cs
    rw [hrest] at hhead
    exact .inr ⟨rest, by simpa using hhead⟩

theorem baseName_eq_trim_iff (name : String) (parameters : List String) (variadic : Bool) :
    (ofFunction name parameters variadic).baseName = trim name ↔ '(' ∉ name.toList := by
  have hblank : isBlank '(' = false := by decide
  rw [← mem_trim_iff hblank]
  constructor
  case mp =>
    intro heq
    rw [← heq]
    exact not_mem_baseName _
  case mpr =>
    intro hnone
    rw [← String.toList_inj, toList_baseName_ofFunction, List.takeWhile_eq_self_iff]
    intro c hc
    exact bne_iff_ne.2 fun heq => hnone (heq ▸ hc)

/-- **The base name of a function is the start of its name up to the first parenthesis**, whatever
its parameters are: all of the name exactly when there is no parenthesis in it. -/
theorem baseName_ofFunction (name : String) (parameters : List String) (variadic : Bool) :
    (∃ rest, (trim name).toList =
      (ofFunction name parameters variadic).baseName.toList ++ rest ∧
      (rest = [] ∨ ∃ cs, rest = '(' :: cs)) ∧
    '(' ∉ (ofFunction name parameters variadic).baseName.toList ∧
    ((ofFunction name parameters variadic).baseName = trim name ↔ '(' ∉ name.toList) := by
  refine ⟨?_, not_mem_baseName _, baseName_eq_trim_iff name parameters variadic⟩
  refine ⟨(trim name).toList.dropWhile (· != '('), ?_, eq_nil_or_cons_of_dropWhile _⟩
  rw [toList_baseName_ofFunction, List.takeWhile_append_dropWhile]

/-- The parentheses of a call operator are taken for those of its parameters, and so are those of a
function type among template arguments. -/
theorem baseName_callOperator_ne :
    (ofFunction "Functor::operator()" ["int"] false).baseName ≠ trim "Functor::operator()" ∧
    (ofFunction "invoke<void (int)>" [] false).baseName ≠ trim "invoke<void (int)>" := by
  decide

end Uid

end HeaderAbi
