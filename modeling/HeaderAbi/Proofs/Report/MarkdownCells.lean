import HeaderAbi.Report.Markdown
import Mathlib.Data.List.Induction

/-!
# The cells of Markdown rows

`pieces` reads a row of a table: a backslash makes the punctuation after it literal, and every other
pipe separates two cells.  Escaping a text for a cell puts a backslash before each pipe but leaves
the backslashes of the text as they are, so that they may take the inserted one for themselves.

* **A pipe separates cells after all** when an odd number of backslashes stands right before it
  (`exposedPipes`); no other pipe does, and nothing breaks the line (`length_pieces_escapeCell`).
* **The row of an entry has its four cells** exactly when no pipe of its location or detail is
  exposed, and otherwise one more for each that is (`rowCells_entryLine`).
-/

namespace HeaderAbi

namespace Markdown

/-! ### The reader -/

/-- The punctuation of ASCII. -/
def isPunctuation (c : Char) : Bool :=
  let n := c.toNat
  (33 ≤ n && n ≤ 47) || (58 ≤ n && n ≤ 64) || (91 ≤ n && n ≤ 96) || (123 ≤ n && n ≤ 126)

/-- What is known of a row that is being read. -/
structure Row where
  /-- The cells before the last separator. -/
  cells : List (List Char) := []
  /-- What follows that separator. -/
  cell : List Char := []
  /-- After a backslash that is not literal itself. -/
  escaping : Bool := false

/-- Read a character. -/
def Row.read (r : Row) (c : Char) : Row :=
  if r.escaping && isPunctuation c then { r with cell := r.cell ++ [c], escaping := false }
  else if c = '|' then { cells := r.cells ++ [r.cell] }
  else { r with cell := r.cell ++ [c], escaping := c = '\\' }

/-- The texts between the separators of a row, and those before the first and after the last. -/
def pieces (s : String) : List String :=
  let r := s.toList.foldl Row.read {}
  (r.cells ++ [r.cell]).map String.ofList

/-- The cells of a row with a separator at either end. -/
def rowCells (s : String) : List String := (pieces s).tail.dropLast

/-! ### Exposed pipes -/

/-- The number of backslashes at the end of a text. -/
def backslashes (cs : List Char) : Nat := (cs.reverse.takeWhile (· = '\\')).length

/-- The number of pipes right after an odd number of backslashes. -/
def oddPipes (cs : List Char) : Nat :=
  (List.range cs.length).countP fun i => cs[i]? = some '|' ∧ backslashes (cs.take i) % 2 = 1

/-- What is left of a text when it is escaped for a cell: all but the carriage returns. -/
def kept (cs : List Char) : List Char := cs.filter (· ≠ '\x0d')

/-- The number of pipes of a text that an escape does not make literal. -/
def exposedPipes (s : String) : Nat := oddPipes (kept s.toList)

@[simp]
theorem backslashes_concat (cs : List Char) (c : Char) :
    backslashes (cs ++ [c]) = if c = '\\' then backslashes cs + 1 else 0 := by
  by_cases h : c = '\\' <;> simp [backslashes, h]

@[simp]
theorem oddPipes_concat (cs : List Char) (c : Char) :
    oddPipes (cs ++ [c]) =
      oddPipes cs + if c = '|' ∧ backslashes cs % 2 = 1 then 1 else 0 := by
  have hbefore : ∀ i ∈ List.range cs.length,
      decide ((cs ++ [c])[i]? = some '|' ∧ backslashes ((cs ++ [c]).take i) % 2 = 1) =
        decide (cs[i]? = some '|' ∧ backslashes (cs.take i) % 2 = 1) := by
    intro i hi
    have hlt : i < cs.length := List.mem_range.1 hi
    rw [List.getElem?_append_left hlt, List.take_append_of_le_length (Nat.le_of_lt hlt)]
  rw [oddPipes, List.length_append, List.length_singleton, List.range_succ, List.countP_append,
    List.countP_congr fun i hi => by rw [hbefore i hi]]
  simp [oddPipes, List.countP_cons]

theorem kept_concat (cs : List Char) (c : Char) :
    kept (cs ++ [c]) = kept cs ++ if c = '\x0d' then [] else [c] := by
  by_cases h : c = '\x0d' <;> simp [kept, h]

/-! ### Reading on -/

/-- A text without pipes and backslashes. -/
def Unmarked (cs : List Char) : Prop := '|' ∉ cs ∧ '\\' ∉ cs

instance (cs : List Char) : Decidable (Unmarked cs) := inferInstanceAs (Decidable (_ ∧ _))

theorem unmarked_cons {c : Char} {cs : List Char} :
    Unmarked (c :: cs) ↔ (c ≠ '|' ∧ c ≠ '\\') ∧ Unmarked cs := by
  simp only [Unmarked, List.mem_cons, not_or, ne_comm (b := c)]
  tauto

namespace Row

variable (r : Row)

theorem read_of_ne {c : Char} (h : c ≠ '|') :
    r.read c = { r with cell := r.cell ++ [c], escaping := c = '\\' && !r.escaping } := by
  by_cases hbackslash : c = '\\'
  · subst hbackslash
    cases hr : r.escaping <;> simp [read, hr, isPunctuation]
  · by_cases hliteral : (r.escaping && isPunctuation c) = true <;>
      simp [read, h, hbackslash, hliteral]

theorem read_pipe : r.read '|' = if r.escaping then
    { r with cell := r.cell ++ ['|'], escaping := false }
    else { cells := r.cells ++ [r.cell] } := by
  cases hr : r.escaping <;> simp [read, hr, isPunctuation]

/-- A text without pipes and backslashes goes into the cell as it is. -/
theorem foldl_read_unmarked {cs : List Char} (hcs : Unmarked cs) (hne : cs ≠ []) :
    cs.foldl read r = { r with cell := r.cell ++ cs, escaping := false } := by
  induction cs generalizing r with
  | nil => exact absurd rfl hne
  | cons c cs ih =>
    obtain ⟨⟨hpipe, hbackslash⟩, hcs⟩ := unmarked_cons.1 hcs
    rw [List.foldl_cons, read_of_ne r hpipe]
    cases cs with
    | nil => simp [hbackslash]
    | cons d cs =>
      rw [ih _ hcs (List.cons_ne_nil _ _)]
      simp

/-- What comes of a row when a text that was escaped for a cell is read. -/
structure After (cs : List Char) (r' : Row) : Prop where
  escaping : r'.escaping = decide (backslashes (kept cs) % 2 = 1)
  cells : ∃ ended, r'.cells = r.cells ++ ended ∧ ended.length = oddPipes (kept cs)
  cell : oddPipes (kept cs) = 0 → r'.cell = r.cell ++ cs.flatMap escapeCellChar

end Row

/-- How one character changes the cell, apart from pipes and carriage returns. -/
theorem foldl_read_escapeCellChar {c : Char} (hpipe : c ≠ '|') (hreturn : c ≠ '\x0d') (r : Row) :
    (escapeCellChar c).foldl Row.read r =
      { r with cell := r.cell ++ escapeCellChar c, escaping := c = '\\' && !r.escaping } := by
  unfold escapeCellChar
  split
  case h_9 => exact r.read_of_ne hpipe
  all_goals simp [Row.read_of_ne] at *

/-- **An escaped text in a row.**  The backslashes of the text itself decide whether the backslash
before a pipe still makes the pipe literal. -/
theorem Row.after_escapeCell {r : Row} (hr : r.escaping = false) (cs : List Char) :
    r.After cs ((cs.flatMap escapeCellChar).foldl Row.read r) := by
  induction cs using List.reverseRecOn with
  | nil => exact ⟨by simpa [kept, backslashes] using hr, ⟨[], by simp, rfl⟩, by simp⟩
  | append_singleton cs c ih =>
    rw [List.flatMap_append, List.foldl_append, List.flatMap_singleton]
    generalize (cs.flatMap escapeCellChar).foldl Row.read r = r' at ih
    obtain ⟨hescaping, ⟨ended, hended, hlength⟩, hcell⟩ := ih
    have happend (h : oddPipes (kept cs) = 0) : r'.cell ++ escapeCellChar c =
        r.cell ++ (cs ++ [c]).flatMap escapeCellChar := by
      rw [hcell h, List.append_assoc, List.flatMap_append, List.flatMap_singleton]
    by_cases hpipe : c = '|'
    · subst hpipe
      have hread : (escapeCellChar '|').foldl Row.read r' = if r'.escaping then
          { cells := r'.cells ++ [r'.cell ++ ['\\']] }
          else { r' with cell := r'.cell ++ escapeCellChar '|', escaping := false } := by
        cases h : r'.escaping <;> simp [escapeCellChar, Row.read_of_ne, Row.read_pipe, h]
      rw [hread, hescaping]
      by_cases hodd : backslashes (kept cs) % 2 = 1
      · -- the backslash before the pipe is taken for a literal one
        constructor
        case cells =>
          exact ⟨ended ++ [r'.cell ++ ['\\']], by simp [hodd, hended],
            by simp [kept_concat, hodd, hlength]⟩
        all_goals simp [kept_concat, hodd]
      · constructor
        case escaping => simp [kept_concat, hodd]
        case cells => exact ⟨ended, by simp [hodd, hended], by simp [kept_concat, hodd, hlength]⟩
        case cell => simpa [kept_concat, hodd] using happend
    by_cases hreturn : c = '\x0d'
    · subst hreturn
      have hescape : escapeCellChar '\x0d' = [] := rfl
      constructor
      case escaping => simp [kept_concat, hescape, hescaping]
      case cells => exact ⟨ended, hended, by simp [kept_concat, hlength]⟩
      case cell => simpa [kept_concat, hescape] using hcell
    · rw [foldl_read_escapeCellChar hpipe hreturn]
      constructor
      case escaping =>
        by_cases hbackslash : c = '\\'
        · have hflip (n : Nat) : decide ((n + 1) % 2 = 1) = !decide (n % 2 = 1) := by
            rw [← decide_not, decide_eq_decide]
            omega
          simp [kept_concat, hbackslash, hescaping, hflip]
        · simp [kept_concat, hreturn, hbackslash]
      case cells => exact ⟨ended, hended, by simp [kept_concat, hreturn, hpipe, hlength]⟩
      case cell => simpa [kept_concat, hreturn, hpipe] using happend

/-! ### Cells -/

/-- Nothing in the text ends a line. -/
def OneLine (s : String) : Prop := '\n' ∉ s.toList ∧ '\x0d' ∉ s.toList

instance (s : String) : Decidable (OneLine s) := inferInstanceAs (Decidable (_ ∧ _))

@[simp]
theorem oneLine_append {s t : String} : OneLine (s ++ t) ↔ OneLine s ∧ OneLine t := by
  simp only [OneLine, String.toList_append, List.mem_append, not_or]
  tauto

theorem oneLine_escapeCell (s : String) : OneLine (escapeCell s) := by
  have hchar (c : Char) : '\n' ∉ escapeCellChar c ∧ '\x0d' ∉ escapeCellChar c := by
    unfold escapeCellChar
    split <;> simp_all [eq_comm]
  simp [OneLine, escapeCell, hchar]

/-- **An escaped text is one cell** exactly when none of its pipes is exposed. -/
theorem length_pieces_escapeCell (s : String) :
    (pieces (escapeCell s)).length = 1 + exposedPipes s := by
  obtain ⟨-, ⟨ended, hended, hlength⟩, -⟩ := Row.after_escapeCell (r := {}) rfl s.toList
  simp [pieces, escapeCell, hended, hlength, exposedPipes, Nat.add_comm]

/-- A text in front of a separator is one cell, or as many more as it has separators itself. -/
def Fills (cs : List Char) (separators : Nat) : Prop :=
  ∀ r : Row, r.cell = [] → r.escaping = false → ∃ ended : List (List Char),
    (cs ++ ['|']).foldl Row.read r = { cells := r.cells ++ ended } ∧
      ended.length = 1 + separators ∧ (separators = 0 → ended = [cs])

theorem fills_unmarked {cs : List Char} (hcs : Unmarked cs) (hne : cs ≠ []) :
    Fills cs 0 := by
  intro r hcell _
  refine ⟨[cs], ?_, rfl, fun _ => rfl⟩
  rw [List.foldl_append, r.foldl_read_unmarked hcs hne]
  simp [Row.read_pipe, hcell]

/-- An escaped text between plain ones has a separator for each exposed pipe. -/
theorem fills_escaped (before after cs : List Char) (hbefore : Unmarked before)
    (hbefore' : before ≠ []) (hafter : Unmarked after) (hafter' : after ≠ []) :
    Fills (before ++ (cs.flatMap escapeCellChar ++ after)) (oddPipes (kept cs)) := by
  intro r hcell _
  obtain ⟨-, ⟨ended, hended, hlength⟩, hwhole⟩ :=
    Row.after_escapeCell (r := { r with cell := r.cell ++ before, escaping := false }) rfl cs
  rw [List.foldl_append, List.foldl_append, List.foldl_append, r.foldl_read_unmarked hbefore hbefore']
  generalize (cs.flatMap escapeCellChar).foldl Row.read _ = r' at hended hwhole
  refine ⟨ended ++ [r'.cell ++ after], ?_, ?_, fun hnone => ?_⟩
  · rw [r'.foldl_read_unmarked hafter hafter']
    simp [Row.read_pipe, hended]
  · rw [List.length_append, List.length_singleton, hlength, Nat.add_comm]
  · obtain rfl : ended = [] := List.length_eq_zero_iff.1 (hlength.trans hnone)
    rw [hwhole hnone, hcell]
    simp

/-- Texts with a separator after each are one cell each, or as many more as they have separators
themselves. -/
def FillsRow (texts : List (List Char)) (separators : Nat) : Prop :=
  ∀ r : Row, r.cell = [] → r.escaping = false → ∃ ended : List (List Char),
    (texts.flatMap (· ++ ['|'])).foldl Row.read r = { cells := r.cells ++ ended } ∧
      ended.length = texts.length + separators ∧ (separators = 0 → ended = texts)

theorem FillsRow.nil : FillsRow [] 0 := by
  intro r hcell hescaping
  obtain ⟨cells, cell, escaping⟩ := r
  subst hcell hescaping
  exact ⟨[], by simp, rfl, fun _ => rfl⟩

/-- **A row grows by one text**, whose separators add up with those of the others. -/
theorem FillsRow.cons {cs : List Char} {texts : List (List Char)} {m n : Nat} (h : Fills cs m)
    (hrow : FillsRow texts n) : FillsRow (cs :: texts) (m + n) := by
  intro r hcell hescaping
  obtain ⟨first, hfirst, hfirstLength, hfirstWhole⟩ := h r hcell hescaping
  obtain ⟨ended, hended, hlength, hwhole⟩ := hrow { cells := r.cells ++ first } rfl rfl
  refine ⟨first ++ ended, ?_, ?_, fun hnone => ?_⟩
  · rw [List.flatMap_cons, List.foldl_append, hfirst, hended, List.append_assoc]
  · rw [List.length_append, List.length_cons]
    omega
  · rw [hfirstWhole (by omega), hwhole (by omega), List.singleton_append]

/-- The texts between the separators of the row of an entry. -/
def cellTexts (e : Entry) : List String :=
  [" " ++ badge e.impact ++ " ", " " ++ e.kind.word ++ " ",
    " " ++ code (escapeCell e.location) ++ " ", " " ++ escapeCell e.change.detail ++ " "]

theorem toList_entryLine (e : Entry) : (entryLine .table e).toList =
    '|' :: ((cellTexts e).map String.toList).flatMap (· ++ ['|']) := by
  simp [entryLine, cellTexts, code, ToString.toString]

theorem fillsRow_cellTexts (e : Entry) : FillsRow ((cellTexts e).map String.toList)
    (exposedPipes e.location + exposedPipes e.change.detail) := by
  have himpact : Fills (" " ++ badge e.impact ++ " ").toList 0 := by
    cases e.impact <;> exact fills_unmarked (by decide) (by decide)
  have hkind : Fills (" " ++ e.kind.word ++ " ").toList 0 := by
    cases e.kind <;> exact fills_unmarked (by decide) (by decide)
  have hlocation : Fills (" " ++ code (escapeCell e.location) ++ " ").toList
      (exposedPipes e.location) := by
    have h := fills_escaped [' ', '\x60'] ['\x60', ' '] e.location.toList (by decide)
      (by decide) (by decide) (by decide)
    simpa [code, escapeCell, exposedPipes] using h
  have hdetail : Fills (" " ++ escapeCell e.change.detail ++ " ").toList
      (exposedPipes e.change.detail) := by
    have h := fills_escaped [' '] [' '] e.change.detail.toList (by decide) (by decide)
      (by decide) (by decide)
    simpa [escapeCell, exposedPipes] using h
  have h := FillsRow.cons himpact (.cons hkind (.cons hlocation (.cons hdetail .nil)))
  rwa [Nat.zero_add, Nat.zero_add, Nat.add_zero] at h

/-- **The row of an entry** has its four cells, and one more for each exposed pipe. -/
theorem rowCells_entryLine (e : Entry) :
    (rowCells (entryLine .table e)).length =
        4 + (exposedPipes e.location + exposedPipes e.change.detail) ∧
      (exposedPipes e.location + exposedPipes e.change.detail = 0 →
        rowCells (entryLine .table e) = cellTexts e) := by
  obtain ⟨ended, hended, hlength, hwhole⟩ :=
    fillsRow_cellTexts e { cells := [[]] } rfl rfl
  have hcells : rowCells (entryLine .table e) = ended.map String.ofList := by
    have hfirst : Row.read {} '|' = { cells := [[]] } := rfl
    rw [rowCells, pieces, toList_entryLine, List.foldl_cons, hfirst, hended]
    simp
  rw [hcells]
  constructor
  · rw [List.length_map, hlength]
    rfl
  · intro hnone
    rw [hwhole hnone]
    simp

theorem oneLine_badge (i : Impact) : OneLine (badge i) := by cases i <;> decide

theorem oneLine_word (k : ChangeKind) : OneLine k.word := by cases k <;> decide

theorem oneLine_tableRow (e : Entry) : OneLine (entryLine .table e) := by
  have hmark : ∀ s ∈ ["| ", " | ", " |", "\x60"], OneLine s := by decide
  simp_all [entryLine, code, oneLine_badge, oneLine_word, oneLine_escapeCell, ToString.toString]

/-- **A text for a cell is one cell** and the row of an entry has its four, unless a pipe in them is
exposed: each that is separates one more cell.  Nothing breaks the row into lines. -/
theorem escaped_cells (s : String) (e : Entry) :
    (OneLine (escapeCell s) ∧ (pieces (escapeCell s)).length = 1 + exposedPipes s) ∧
    OneLine (entryLine .table e) ∧
      (rowCells (entryLine .table e)).length =
        4 + (exposedPipes e.location + exposedPipes e.change.detail) ∧
      (rowCells (entryLine .table e) = cellTexts e ↔
        exposedPipes e.location + exposedPipes e.change.detail = 0) := by
  constructor
  · exact ⟨oneLine_escapeCell s, length_pieces_escapeCell s⟩
  · obtain ⟨hlength, hcells⟩ := rowCells_entryLine e
    refine ⟨oneLine_tableRow e, hlength, fun h => ?_, hcells⟩
    have hfour : (cellTexts e).length = 4 := rfl
    rw [h, hfour] at hlength
    omega

/-- A backslash before a pipe takes the inserted one for itself, and the pipe separates. -/
theorem exists_cell_broken : ∃ (s : String) (e : Entry),
    (pieces (escapeCell s)).length = 2 ∧ (rowCells (entryLine .table e)).length = 6 :=
  ⟨"\\|", ⟨⟨"a\\|b"⟩, .globals,
    { kind := .added, impact := .nonBreaking, detail := "global variable 'a\\|b' added" }⟩,
    length_pieces_escapeCell _, (rowCells_entryLine _).1⟩

end Markdown

end HeaderAbi
