import Mathlib.Algebra.BigOperators.Group.List.Basic
import Mathlib.Algebra.Ring.Nat
import HeaderAbi.Report.Terminal

/-!
# The columns of a table

The columns of a table are as wide as the terminal says (`Measure`).  What is relied on is little
(`Measure.Documented`): plain characters take a cell each, blanks and ellipses join nothing, and
control characters have no width by themselves.

A location that is too wide for its column is cut: its first characters are kept as long as their
own widths fit.  Together they may be wider than that, and then the row is moved to the right by
what they are over (`overrun`).

* Filling a text up takes it to the width of its column and no further (`Documented.text_pad`), and
  what is kept of a location has room for its characters (`sum_keptLocation_le`).
* **The details of an entry start at the column of the heading**, moved by what its location is over
  (`detail_column`).  That is no more than the text is wider than its characters by themselves, so
  wide, invisible and combining characters move nothing.
* Control characters do move a row (`exists_details_displaced`): they count as cells of a text, but
  not when it is cut.
-/

namespace HeaderAbi

/-! ### Measures -/

/-- The ASCII characters that join no other.  A line feed joins the carriage return before it. -/
def isUnjoined (c : Char) : Bool := c.toNat < 0x80 && c != '\n'

namespace Measure

/-- What terminals are known to do.  The width of a text is the sum over its characters but for the
sequences that are shown as one symbol. -/
structure Documented (m : Measure) : Prop where
  /-- No sequence of ASCII characters is one symbol, except for a line end of two.  In a text even a
  control character takes a cell. -/
  ascii : ∀ s : String, s.toList.all isUnjoined = true → m.text s = s.length
  /-- A blank is part of no longer symbol. -/
  blank : ∀ s t : String, m.text (s ++ " " ++ t) = m.text s + 1 + m.text t
  /-- Nor is an ellipsis. -/
  ellipsis : ∀ s : String, m.text (s ++ "…") = m.text s + 1
  /-- A control character has no width by itself. -/
  control : ∀ c : Char, c.toNat < 0x20 → m.char c = none

theorem documented_uniform : uniform.Documented where
  ascii _ _ := rfl
  blank s t := by
    change (s ++ " " ++ t).length = _
    rw [String.length_append, String.length_append]
    rfl
  ellipsis s := String.length_append s "…"
  control c hc := if_pos (by simp [hc])

variable {m : Measure} (hm : m.Documented)
include hm

theorem Documented.text_empty : m.text "" = 0 := hm.ascii "" rfl

theorem Documented.text_blanks (s : String) (n : Nat) :
    m.text (s ++ repeated ' ' n) = m.text s + n := by
  induction n with
  | zero => simp [repeated]
  | succ n ih =>
    have hlast : s ++ repeated ' ' (n + 1) = s ++ repeated ' ' n ++ " " ++ "" :=
      String.toList_inj.1 (by simp [repeated, List.replicate_succ'])
    rw [hlast, hm.blank, ih, hm.text_empty]
    omega

end Measure

namespace Report

variable {m : Measure}

/-! ### Cells -/

/-- Cells with a blank after each. -/
def ahead : List String → String
  | [] => ""
  | s :: cells => s ++ " " ++ ahead cells

theorem intercalate_cells (a b c d last : String) :
    " ".intercalate [a, b, c, d, last] = ahead [a, b, c, d] ++ last :=
  String.toList_inj.1 (by simp [ahead])

section
variable (hm : m.Documented)
include hm

/-- A text and what fills it up take the width of the column, or that of the text if it is wider. -/
theorem text_pad (column : Nat) (s : String) :
    m.text (pad m column s) = max column (m.text s) := by
  rw [pad, hm.text_blanks]
  omega

/-- A short title fits its column. -/
theorem text_pad_of_ascii {column : Nat} {s : String} (h : s.toList.all isUnjoined = true)
    (hfits : s.length ≤ column) : m.text (pad m column s) = column := by
  rw [text_pad hm, hm.ascii s h]
  exact Nat.max_eq_left hfits

theorem text_ahead (cells : List String) :
    m.text (ahead cells) = (cells.map m.text).sum + cells.length := by
  induction cells with
  | nil => exact hm.text_empty
  | cons s cells ih =>
    rw [ahead, hm.blank, ih, List.map_cons, List.sum_cons, List.length_cons]
    omega

end

/-! ### Cutting -/

theorem sum_cutAt_le (m : Measure) (room : Nat) (cs : List Char) :
    ((cutAt m room cs).map m.cells).sum ≤ room := by
  induction cs generalizing room with
  | nil => exact Nat.zero_le _
  | cons c cs ih =>
    rw [cutAt]
    split
    case isTrue hfits =>
      have hrest := ih (room - m.cells c)
      rw [List.map_cons, List.sum_cons]
      omega
    case isFalse => exact Nat.zero_le _

theorem cutAt_eq_self {room : Nat} {cs : List Char} (h : ∀ c ∈ cs, m.cells c = 0) :
    cutAt m room cs = cs := by
  induction cs with
  | nil => rfl
  | cons c cs ih =>
    rw [List.forall_mem_cons] at h
    rw [cutAt, h.1, if_pos (Nat.zero_le room), Nat.sub_zero, ih h.2]

/-- What is kept of a location that is cut. -/
def keptLocation (m : Measure) (location : String) : List Char :=
  cutAt m (locationWidth - 1) location.toList

theorem sum_keptLocation_le (m : Measure) (location : String) :
    ((keptLocation m location).map m.cells).sum ≤ locationWidth - 1 :=
  sum_cutAt_le _ _ _

/-- The cells that a location is over the width of its column when it is cut. -/
def overrun (m : Measure) (location : String) : Nat :=
  if m.text location ≤ locationWidth then 0
  else m.text (String.ofList (keptLocation m location)) - (locationWidth - 1)

/-- A location is over by no more than what is kept of it is wider than its characters. -/
theorem overrun_le (m : Measure) (location : String) :
    overrun m location ≤ m.text (String.ofList (keptLocation m location)) -
      ((keptLocation m location).map m.cells).sum := by
  unfold overrun
  split
  case isTrue => exact Nat.zero_le _
  case isFalse =>
    have hroom := sum_keptLocation_le m location
    omega

theorem text_locationCell (hm : m.Documented) (location : String) :
    m.text (pad m locationWidth (truncate m locationWidth location)) =
      locationWidth + overrun m location := by
  rw [text_pad hm, truncate, overrun]
  split
  case isTrue hfits => exact Nat.max_eq_left hfits
  case isFalse =>
    have hcolumn : locationWidth = 40 := rfl
    have hkept : cutAt m (locationWidth - 1) location.toList = keptLocation m location := rfl
    rw [hkept, hm.ellipsis]
    omega

/-! ### Rows -/

/-- A text begins in a row after some cells. -/
def StartsAt (m : Measure) (row text : String) (column : Nat) : Prop :=
  ∃ before, row = before ++ text ∧ m.text before = column

theorem StartsAt.unique {row text : String} {k n : Nat} (hk : StartsAt m row text k)
    (hn : StartsAt m row text n) : k = n := by
  obtain ⟨before, rfl, rfl⟩ := hk
  obtain ⟨before', hrow, rfl⟩ := hn
  have hlist := congrArg String.toList hrow
  rw [String.toList_append, String.toList_append] at hlist
  rw [String.toList_inj.1 (List.append_cancel_right hlist)]

/-- The column where details start, after four cells and the blanks between them. -/
def detailColumn : Nat := impactWidth + kindWidth + categoryWidth + locationWidth + 4

/-- The row of headings. -/
def headingRow (m : Measure) : String :=
  " ".intercalate [pad m impactWidth "IMPACT", pad m kindWidth "KIND",
    pad m categoryWidth "CATEGORY", pad m locationWidth "LOCATION", pad m 0 "DETAIL"]

section
variable (hm : m.Documented)
include hm

theorem startsAt_intercalate {a b c d : String} {i k n l : Nat} (ha : m.text a = i)
    (hb : m.text b = k) (hc : m.text c = n) (hd : m.text d = l) (last : String) :
    StartsAt m (" ".intercalate [a, b, c, d, last]) last (i + k + n + l + 4) := by
  refine ⟨ahead [a, b, c, d], intercalate_cells a b c d last, ?_⟩
  rw [text_ahead hm]
  simp [ha, hb, hc, hd, Nat.add_assoc]

theorem text_impactCell (i : Impact) : m.text (pad m impactWidth i.title) = impactWidth := by
  cases i <;> exact text_pad_of_ascii hm (by decide) (by decide)

theorem text_kindCell (k : ChangeKind) : m.text (pad m kindWidth k.word) = kindWidth := by
  cases k <;> exact text_pad_of_ascii hm (by decide) (by decide)

theorem text_categoryCell (c : Category) : m.text (pad m categoryWidth c.key) = categoryWidth := by
  cases c <;> exact text_pad_of_ascii hm (by decide) (by decide)

theorem startsAt_headingRow : StartsAt m (headingRow m) "DETAIL" detailColumn := by
  have hdetail : pad m 0 "DETAIL" = "DETAIL" := by simp [pad, repeated]
  unfold headingRow
  rw [hdetail]
  refine startsAt_intercalate hm ?_ ?_ ?_ ?_ _
  all_goals exact text_pad_of_ascii hm (by decide) (by decide)

theorem startsAt_entryRow (e : Entry) :
    StartsAt m (entryRow m false e) e.change.detail (detailColumn + overrun m e.location) := by
  have hcolumn : detailColumn + overrun m e.location =
      impactWidth + kindWidth + categoryWidth + (locationWidth + overrun m e.location) + 4 := by
    unfold detailColumn
    omega
  rw [hcolumn]
  exact startsAt_intercalate hm (text_impactCell hm _) (text_kindCell hm _)
    (text_categoryCell hm _) (text_locationCell hm _) _

/-- **The details of every entry start at the column of their heading, moved to the right by the
cells that its location is over.**  Those are no more than what is kept of the location is wider
than its characters. -/
theorem detail_column (r : Report) :
    (∃ foot, r.tableText m false = "\n".intercalate
      ([headingRow m, repeated '─' 100] ++ r.entries.map (entryRow m false) ++ foot)) ∧
    StartsAt m (headingRow m) "DETAIL" detailColumn ∧
    (∀ location, m.text (pad m locationWidth (truncate m locationWidth location)) =
      locationWidth + overrun m location) ∧
    ∀ e : Entry,
      StartsAt m (entryRow m false e) e.change.detail (detailColumn + overrun m e.location) ∧
      overrun m e.location ≤ m.text (String.ofList (keptLocation m e.location)) -
        ((keptLocation m e.location).map m.cells).sum :=
  ⟨⟨_, rfl⟩, startsAt_headingRow hm, text_locationCell hm,
    fun e => ⟨startsAt_entryRow hm e, overrun_le m e.location⟩⟩

end

/-! ### Rows that are moved -/

/-- A new variable. -/
def addedGlobal (name : String) : Entry where
  uid := ⟨name⟩
  category := .globals
  change := { kind := .added, impact := .nonBreaking, detail := s!"global variable '{name}' added" }

/-- A name of forty-one control characters, all of which are kept when it is cut to forty cells. -/
def controlName : String := String.ofList (List.replicate 41 '\x01')

/-- A report on two new variables. -/
def controlReport : Report := ofDiff {} ⟨[addedGlobal controlName, addedGlobal "plain"]⟩

theorem entries_controlReport :
    controlReport.entries = [addedGlobal controlName, addedGlobal "plain"] := rfl

section
variable (hm : m.Documented)
include hm

theorem overrun_controlName : overrun m controlName = 2 := by
  have hlist : controlName.toList = List.replicate 41 '\x01' := String.toList_ofList
  have hunjoined : controlName.toList.all isUnjoined = true := by
    rw [hlist]
    decide
  have hinvisible : ∀ c ∈ controlName.toList, m.cells c = 0 := by
    rw [hlist, List.forall_mem_replicate]
    exact .inr (by rw [Measure.cells, hm.control _ (by decide)]; rfl)
  have hkept : String.ofList (keptLocation m controlName) = controlName := by
    rw [keptLocation, cutAt_eq_self hinvisible, String.ofList_toList]
  have hlength : controlName.length = 41 := by
    rw [← String.length_toList, hlist, List.length_replicate]
  rw [overrun, hkept, hm.ascii _ hunjoined, hlength]
  rfl

theorem overrun_plain : overrun m "plain" = 0 := by
  rw [overrun, hm.ascii "plain" (by decide)]
  rfl

/-- In that report the details do not start at one column. -/
theorem not_startsAt_controlReport :
    ¬ ∃ column, ∀ e ∈ controlReport.entries,
      StartsAt m (entryRow m false e) e.change.detail column := by
  rintro ⟨column, hcolumn⟩
  rw [entries_controlReport] at hcolumn
  have hmoved : column = detailColumn + 2 := by
    rw [← overrun_controlName hm]
    exact (hcolumn _ List.mem_cons_self).unique (startsAt_entryRow hm (addedGlobal controlName))
  have hplain : column = detailColumn + 0 := by
    rw [← overrun_plain hm]
    exact (hcolumn _ (List.mem_cons_of_mem _ List.mem_cons_self)).unique
      (startsAt_entryRow hm (addedGlobal "plain"))
  omega

end

/-- With one cell for each character, the details of the two variables start two cells apart. -/
theorem detail_column_controlName : Measure.uniform.Documented ∧
    StartsAt .uniform (headingRow .uniform) "DETAIL" 82 ∧
    StartsAt .uniform (entryRow .uniform false (addedGlobal controlName))
      (addedGlobal controlName).change.detail 84 ∧
    StartsAt .uniform (entryRow .uniform false (addedGlobal "plain"))
      (addedGlobal "plain").change.detail 82 := by
  have huniform := Measure.documented_uniform
  obtain ⟨-, hheading, -, hentry⟩ := detail_column huniform controlReport
  have hcontrol := (hentry (addedGlobal controlName)).1
  have hplain := (hentry (addedGlobal "plain")).1
  change StartsAt _ _ _ (detailColumn + overrun .uniform controlName) at hcontrol
  change StartsAt _ _ _ (detailColumn + overrun .uniform "plain") at hplain
  rw [overrun_controlName huniform] at hcontrol
  rw [overrun_plain huniform] at hplain
  exact ⟨huniform, hheading, hcontrol, hplain⟩

/-- Control characters move the details of one entry away from the column of another, whatever a
terminal does beyond what is documented. -/
theorem exists_details_displaced : (∃ m : Measure, m.Documented) ∧ ∀ m : Measure, m.Documented →
    m.text (pad m 40 (truncate m 40 controlName)) = 42 ∧
    ¬ ∃ column, ∀ e ∈ controlReport.entries,
      StartsAt m (entryRow m false e) e.change.detail column := by
  refine ⟨⟨.uniform, Measure.documented_uniform⟩, fun m hm => ⟨?_, not_startsAt_controlReport hm⟩⟩
  have hcell := text_locationCell hm controlName
  rw [overrun_controlName hm] at hcell
  exact hcell

end Report

end HeaderAbi
