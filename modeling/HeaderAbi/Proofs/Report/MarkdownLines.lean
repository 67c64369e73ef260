import HeaderAbi.Proofs.Data.Numeral
import HeaderAbi.Proofs.Report.MarkdownCells

/-!
# The lines of Markdown reports

`lines` reads a text line by line as Markdown does: a line ends in a line feed, in a carriage return
or in both.  What a report writes as one line is read as one line, apart from entries in a list,
whose location is not escaped.

* **The sections of a report are read line by line** as they were written (`lines_markdownText`):
  a heading, the head of a table, the entries, the omitted ones of a group and a blank.
* **An entry takes one line in a table**, whatever its texts contain; in a list it takes one more
  for each line ending of its location (`length_entryRead`).
-/

namespace HeaderAbi

namespace Markdown

/-! ### The reader -/

/-- Read on, with the characters of the line so far. -/
def linesFrom (line : List Char) : List Char → List String
  | [] => if line = [] then [] else [String.ofList line]
  | '\x0d' :: '\n' :: cs => String.ofList line :: linesFrom [] cs
  | c :: cs =>
    if c = '\n' ∨ c = '\x0d' then String.ofList line :: linesFrom [] cs
    else linesFrom (line ++ [c]) cs

/-- The lines of a text. -/
def lines (s : String) : List String := linesFrom [] s.toList

/-- The number of line endings in a text. -/
def lineEnds : List Char → Nat
  | [] => 0
  | '\x0d' :: '\n' :: cs => lineEnds cs + 1
  | c :: cs => lineEnds cs + if c = '\n' ∨ c = '\x0d' then 1 else 0

/-- **A line feed ends a line** wherever it stands. -/
theorem linesFrom_append_newline (line cs rest : List Char) :
    linesFrom line (cs ++ '\n' :: rest) = linesFrom line (cs ++ ['\n']) ++ linesFrom [] rest := by
  fun_induction linesFrom line cs with
  | case1 => simp [linesFrom]
  | case2 => simp [linesFrom]
  | case3 line cs ih => simp [linesFrom, ih]
  | case4 line c cs hpair hend ih =>
    rcases cs with - | ⟨d, cs⟩
    · obtain rfl | rfl := hend <;> simp [linesFrom]
    · simp_all [linesFrom]
  | case5 line c cs hpair hend ih =>
    rw [not_or] at hend
    simp [linesFrom, hend, ih]

/-- A text that ends in a line feed has as many lines as line endings. -/
theorem length_linesFrom (line cs : List Char) :
    (linesFrom line (cs ++ ['\n'])).length = lineEnds (cs ++ ['\n']) := by
  fun_induction linesFrom line cs with
  | case1 => simp [linesFrom, lineEnds]
  | case2 => simp [linesFrom, lineEnds]
  | case3 line cs ih => simp [linesFrom, lineEnds, ih]
  | case4 line c cs hpair hend ih =>
    rcases cs with - | ⟨d, cs⟩
    · obtain rfl | rfl := hend <;> simp [linesFrom, lineEnds]
    · simp_all [linesFrom, lineEnds]
  | case5 line c cs hpair hend ih =>
    rw [not_or] at hend
    simp [linesFrom, lineEnds, hend, ih]

/-- A text in which nothing ends a line adds no line ending. -/
theorem lineEnds_oneLine_append {cs : List Char} (h : '\n' ∉ cs ∧ '\x0d' ∉ cs) (ds : List Char) :
    lineEnds (cs ++ ds) = lineEnds ds := by
  induction cs with
  | nil => rfl
  | cons c cs ih =>
    have hc : c ≠ '\n' ∧ c ≠ '\x0d' := by simp_all [eq_comm]
    have hcs : '\n' ∉ cs ∧ '\x0d' ∉ cs := by simp_all
    simp [lineEnds, hc, ih hcs]

theorem lineEnds_eq_zero_iff {cs : List Char} :
    lineEnds cs = 0 ↔ '\n' ∉ cs ∧ '\x0d' ∉ cs := by
  constructor
  · fun_induction lineEnds cs with
    | case1 => simp
    | case2 => simp
    | case3 c cs hpair ih =>
      intro h
      have hc : ¬(c = '\n' ∨ c = '\x0d') := fun hc => by simp [hc] at h
      have hcs := ih (Nat.eq_zero_of_add_eq_zero_right h)
      simp_all [eq_comm]
  · intro h
    rw [← List.append_nil cs, lineEnds_oneLine_append h]
    rfl

/-- Line endings add up, but for the two characters of one. -/
theorem lineEnds_append (cs : List Char) {ds : List Char} (h : ds.head? ≠ some '\n') :
    lineEnds (cs ++ ds) = lineEnds cs + lineEnds ds := by
  fun_induction lineEnds cs with
  | case1 => simp
  | case2 cs ih => simp [lineEnds, ih, Nat.add_right_comm]
  | case3 c cs hpair ih =>
    rcases cs with - | ⟨d, cs⟩
    · have hpair' (es : List Char) : c = '\x0d' → ds = '\n' :: es → False := by
        rintro - rfl
        exact h rfl
      rw [List.singleton_append, lineEnds.eq_3 _ _ hpair']
      simp [lineEnds, Nat.add_comm]
    · simp_all [lineEnds, Nat.add_right_comm]

/-- **A text in which nothing ends a line is one line.** -/
theorem linesFrom_oneLine {cs : List Char} (h : '\n' ∉ cs ∧ '\x0d' ∉ cs) (line : List Char) :
    linesFrom line (cs ++ ['\n']) = [String.ofList (line ++ cs)] := by
  induction cs generalizing line with
  | nil => simp [linesFrom]
  | cons c cs ih =>
    have hc : c ≠ '\n' ∧ c ≠ '\x0d' := by simp_all [eq_comm]
    have hcs : '\n' ∉ cs ∧ '\x0d' ∉ cs := by simp_all
    rw [List.append_cons line c cs, ← ih hcs]
    simp [linesFrom, hc]

/-! ### Lines of a report -/

/-- The lines as which a line of a report is read. -/
def linesOf (s : String) : List String := lines (s ++ "\n")

theorem linesOf_eq_singleton {s : String} (h : OneLine s) : linesOf s = [s] := by
  rw [linesOf, lines, String.toList_append]
  exact (linesFrom_oneLine h []).trans (by rw [List.nil_append, String.ofList_toList])

theorem length_linesOf (s : String) : (linesOf s).length = lineEnds (s.toList ++ ['\n']) := by
  rw [linesOf, lines, String.toList_append]
  exact length_linesFrom [] s.toList

/-- **A report is read line by line** as it was written. -/
theorem lines_join (texts : List String) :
    lines (String.join (texts.map (· ++ "\n"))) = texts.flatMap linesOf := by
  induction texts with
  | nil => rfl
  | cons s texts ih =>
    have hs : (s ++ "\n" ++ String.join (texts.map (· ++ "\n"))).toList =
        s.toList ++ '\n' :: (String.join (texts.map (· ++ "\n"))).toList := by simp
    rw [List.map_cons, String.join_cons, lines, hs, linesFrom_append_newline, List.flatMap_cons,
      linesOf, lines, String.toList_append, ← ih, lines]
    rfl

/-- The lines as which an entry is read. -/
def entryRead (layout : Layout) (e : Entry) : List String := linesOf (entryLine layout e)

/-- The lines as which the section of a category is read. -/
def sectionRead (layout : Layout) (g : CategoryGroup) : List String :=
  [s!"## {g.category.title} ({g.shown})", ""] ++
    (match layout with
      | .table => ["| Impact | Kind | Location | Detail |", "|---|---|---|---|"]
      | .list => []) ++
    g.impacts.flatMap (fun i => i.entries.flatMap (entryRead layout) ++
      if i.omitted = 0 then [] else [omittedLine layout i]) ++ [""]

/-- The lines that the texts of an entry add to its own. -/
def addedLines (e : Entry) : Layout → Nat
  | .table => 0
  | .list => lineEnds e.location.toList

theorem oneLine_repr (n : Nat) : OneLine n.repr := by
  have hdigit : ∀ c ∈ n.repr.toList, c.isDigit = true := by
    intro c hc
    rw [Nat.toList_repr] at hc
    exact Data.isDigit_of_mem_toDigits hc
  exact ⟨fun h => absurd (hdigit _ h) (by decide), fun h => absurd (hdigit _ h) (by decide)⟩

theorem oneLine_title (i : Impact) : OneLine i.title := by cases i <;> decide

theorem oneLine_heading (c : Category) : OneLine c.title := by cases c <;> decide

theorem oneLine_escapeInline (s : String) : OneLine (escapeInline s) := by
  have hchar (c : Char) : '\n' ∉ escapeInlineChar c ∧ '\x0d' ∉ escapeInlineChar c := by
    by_cases hmark : inlineMarks.contains c = true
    · have hmem : c ∈ inlineMarks := List.contains_iff_mem.1 hmark
      have hnewline : '\n' ≠ c := fun h => absurd (h ▸ hmem) (by decide)
      have hreturn : '\x0d' ≠ c := fun h => absurd (h ▸ hmem) (by decide)
      rw [escapeInlineChar, if_pos hmark]
      simp [hnewline, hreturn]
    · rw [escapeInlineChar, if_neg hmark]
      split_ifs with hnewline hreturn
      · decide
      · decide
      · rw [beq_iff_eq] at hnewline hreturn
        simp [Ne.symm hnewline, Ne.symm hreturn]
  simp [OneLine, escapeInline, hchar]

theorem oneLine_omittedLine (layout : Layout) (g : ImpactGroup) :
    OneLine (omittedLine layout g) := by
  have htext : ∀ s ∈ ["| … | | | ", " |", "- _", "_", " more ", " entries not shown"],
      OneLine s := by
    decide
  cases layout <;>
    simp_all [omittedLine, oneLine_repr, oneLine_title, ToString.toString]

/-- What stands before and after the location of an entry in a list. -/
theorem toList_entryLine_list (e : Entry) : ∃ before after : String,
    OneLine before ∧ OneLine after ∧ after.toList.head? = some '\x60' ∧
      (entryLine .list e).toList = before.toList ++ (e.location.toList ++ after.toList) := by
  refine ⟨"- **" ++ e.impact.title ++ "** " ++ e.kind.word ++ " \x60",
    "\x60: " ++ escapeInline e.change.detail, ?_, ?_, by simp, by
      simp [entryLine, code, ToString.toString]⟩
  · have htext : ∀ s ∈ ["- **", "** ", " \x60"], OneLine s := by decide
    simp_all [oneLine_title, oneLine_word]
  · have htext : OneLine "\x60: " := by decide
    simp_all [oneLine_escapeInline]

theorem oneLine_entryLine (e : Entry) (layout : Layout) (h : addedLines e layout = 0) :
    OneLine (entryLine layout e) := by
  cases layout with
  | table => exact oneLine_tableRow e
  | list =>
    obtain ⟨before, after, hbefore, hafter, -, hline⟩ := toList_entryLine_list e
    have hlocation := lineEnds_eq_zero_iff.1 h
    rw [OneLine] at hbefore hafter
    simp [OneLine, hline, hbefore, hafter, hlocation]

/-- **An entry takes one line**, and in a list one more for each line ending of its location. -/
theorem length_entryRead (e : Entry) (layout : Layout) :
    (entryRead layout e).length = 1 + addedLines e layout := by
  cases layout with
  | table => rw [entryRead, linesOf_eq_singleton (oneLine_tableRow e)]; rfl
  | list =>
    obtain ⟨before, after, hbefore, hafter, hhead, hline⟩ := toList_entryLine_list e
    have hnext : (after.toList ++ ['\n']).head? ≠ some '\n' := by
      rw [List.head?_append, hhead]
      decide
    rw [entryRead, length_linesOf, hline, List.append_assoc, List.append_assoc,
      lineEnds_oneLine_append hbefore, lineEnds_append _ hnext, lineEnds_oneLine_append hafter,
      Nat.add_comm]
    rfl

theorem flatMap_linesOf_groupLines (layout : Layout) (g : ImpactGroup) :
    (groupLines layout g).flatMap linesOf = g.entries.flatMap (entryRead layout) ++
      if g.omitted = 0 then [] else [omittedLine layout g] := by
  rw [groupLines, List.flatMap_append, List.flatMap_map]
  congr 1
  split
  · rfl
  · rw [List.flatMap_singleton, linesOf_eq_singleton (oneLine_omittedLine layout g)]

/-- **The section of a category** is read as its heading, the head of a table, the entries and the
omitted ones of each group, and a blank line. -/
theorem flatMap_linesOf_sectionLines (layout : Layout) (g : CategoryGroup) :
    (sectionLines layout g).flatMap linesOf = sectionRead layout g := by
  have hheading : linesOf s!"## {g.category.title} ({g.shown})" =
      [s!"## {g.category.title} ({g.shown})"] := by
    have htext : ∀ s ∈ ["## ", " (", ")"], OneLine s := by decide
    exact linesOf_eq_singleton (by simp_all [oneLine_repr, oneLine_heading, ToString.toString])
  have htable : ∀ s ∈ ["", "| Impact | Kind | Location | Detail |", "|---|---|---|---|"],
      linesOf s = [s] := by
    have htext : ∀ s ∈ ["", "| Impact | Kind | Location | Detail |", "|---|---|---|---|"],
        OneLine s := by decide
    exact fun s hs => linesOf_eq_singleton (htext s hs)
  simp only [List.forall_mem_cons] at htable
  obtain ⟨hblank, hhead, hrule, -⟩ := htable
  have hgroups : (g.impacts.flatMap (groupLines layout)).flatMap linesOf =
      g.impacts.flatMap fun i => i.entries.flatMap (entryRead layout) ++
        if i.omitted = 0 then [] else [omittedLine layout i] := by
    simp only [List.flatMap_assoc, flatMap_linesOf_groupLines]
  cases layout <;>
    simp only [sectionLines, sectionRead, List.flatMap_append, List.flatMap_cons, List.flatMap_nil,
      hheading, hblank, hhead, hrule, hgroups, List.append_nil,
      List.singleton_append]

/-- The heading of a report with its verdict, its sources and the counts. -/
def headText (o : ReportOptions) (r : Report) : String :=
  String.join ((headLines o r).map (· ++ "\n"))

/-- A report is read as its head and its sections. -/
theorem lines_markdownText (layout : Layout) (o : ReportOptions) (r : Report) :
    lines (r.markdownText layout o) = lines (headText o r) ++
      if r.groups.isEmpty then ["_No differences to report._"]
      else r.groups.flatMap (sectionRead layout) := by
  have hnone : linesOf "_No differences to report._" = ["_No differences to report._"] :=
    linesOf_eq_singleton (by decide)
  rw [Report.markdownText, headText, lines_join, lines_join, List.flatMap_append]
  congr 1
  split
  · rw [List.flatMap_singleton, hnone]
  · simp only [List.flatMap_assoc, flatMap_linesOf_sectionLines]

/-- **Every entry takes the line that was written for it**, whatever its texts contain, unless it
stands in a list and its location has line endings: each of them adds a line.  All other lines of
the sections are headings, heads of tables, counts of omitted entries and blanks. -/
theorem sections_line_by_line (layout : Layout) (o : ReportOptions) (r : Report) :
    (lines (r.markdownText layout o) = lines (headText o r) ++
      if r.groups.isEmpty then ["_No differences to report._"]
      else r.groups.flatMap (sectionRead layout)) ∧
    ∀ e, (entryRead layout e).length = 1 + addedLines e layout ∧
      (entryRead layout e = [entryLine layout e] ↔ addedLines e layout = 0) := by
  refine ⟨lines_markdownText layout o r,
    fun e => ⟨length_entryRead e layout, fun h => ?_, fun h => ?_⟩⟩
  · have hlength := length_entryRead e layout
    rw [h, List.length_singleton] at hlength
    omega
  · exact linesOf_eq_singleton (oneLine_entryLine e layout h)

/-- A new variable whose name holds a line feed. -/
def brokenEntry : Entry :=
  ⟨⟨"a\nb"⟩, .globals,
    { kind := .added, impact := .nonBreaking, detail := "global variable 'a b' added" }⟩

/-- The report of that variable. -/
def brokenReport : Report := .ofDiff {} ⟨[brokenEntry]⟩

/-- An identifier with a line feed takes two lines in a list. -/
theorem exists_line_added : ∃ (r : Report) (e : Entry), r.entries = [e] ∧ r.omitted = 0 ∧
    (entryRead .list e).length = 2 ∧
    ∀ o, lines (r.markdownText .list o) = lines (headText o r) ++
      (["## Global variables (1)", ""] ++ entryRead .list e ++ [""]) := by
  have hadded : addedLines brokenEntry .list = 1 := by decide
  have hsections : (if brokenReport.groups.isEmpty then ["_No differences to report._"]
      else brokenReport.groups.flatMap (sectionRead .list)) =
      ["## Global variables (1)", ""] ++ entryRead .list brokenEntry ++ [""] := by
    decide +kernel
  refine ⟨brokenReport, brokenEntry, rfl, rfl, ?_, fun o => ?_⟩
  · rw [length_entryRead, hadded]
  · rw [lines_markdownText, hsections]

end Markdown

end HeaderAbi
