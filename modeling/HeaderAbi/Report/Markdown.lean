import HeaderAbi.Report.Basic

/-!
# Reports in Markdown

One section a category, as a table or as a list.  Texts from snapshots are escaped, because names
hold characters that mean something in Markdown.
-/

namespace HeaderAbi

namespace Markdown

/-- A character in a cell of a table. -/
def escapeCellChar (c : Char) : List Char :=
  match c with
  | '|' => ['\\', '|']
  | '\n' => [' ']
  | '\x0d' => []
  | '\x60' => ['\\', '\x60']
  | '[' => ['\\', '[']
  | ']' => ['\\', ']']
  | '<' => "&lt;".toList
  | '>' => "&gt;".toList
  | c => [c]

/-- A text for a cell of a table. -/
def escapeCell (s : String) : String := String.ofList (s.toList.flatMap escapeCellChar)

/-- The characters that running text takes only after a backslash. -/
def inlineMarks : List Char := ['*', '_', '\x60', '[', ']', '#', '!', '~', '|', '<', '>']

/-- A character in running text. -/
def escapeInlineChar (c : Char) : List Char :=
  if inlineMarks.contains c then ['\\', c]
  else if c == '\n' then [' '] else if c == '\x0d' then [] else [c]

/-- A text for running text. -/
def escapeInline (s : String) : String := String.ofList (s.toList.flatMap escapeInlineChar)

/-- The layout of the entries of a category. -/
inductive Layout where
  | table
  | list
deriving DecidableEq, Inhabited

def badge : Impact → String
  | .breaking => "🔴 Breaking"
  | .nonBreaking => "🟡 NonBreaking"
  | .informational => "⚪ Informational"

/-- A text as code. -/
def code (s : String) : String := "\x60" ++ s ++ "\x60"

/-- The line of an entry. -/
def entryLine (layout : Layout) (e : Entry) : String :=
  match layout with
  | .table =>
    let location := code (escapeCell e.location)
    s!"| {badge e.impact} | {e.kind.word} | {location} | {escapeCell e.change.detail} |"
  | .list =>
    s!"- **{e.impact.title}** {e.kind.word} {code e.location}: {escapeInline e.change.detail}"

/-- The line that tells how many entries are not shown. -/
def omittedLine (layout : Layout) (g : ImpactGroup) : String :=
  let note := s!"{g.omitted} more {g.impact.title} entries not shown"
  match layout with
  | .table => s!"| … | | | {note} |"
  | .list => s!"- _{note}_"

def groupLines (layout : Layout) (g : ImpactGroup) : List String :=
  g.entries.map (entryLine layout) ++ if g.omitted = 0 then [] else [omittedLine layout g]

/-- The section of a category. -/
def sectionLines (layout : Layout) (g : CategoryGroup) : List String :=
  [s!"## {g.category.title} ({g.shown})", ""] ++
    (match layout with
      | .table => ["| Impact | Kind | Location | Detail |", "|---|---|---|---|"]
      | .list => []) ++
    g.impacts.flatMap (groupLines layout) ++ [""]

/-- The heading of a report with its verdict, its sources and the counts. -/
def headLines (o : ReportOptions) (r : Report) : List String :=
  ["# " ++ escapeInline o.heading, "", s!"**Verdict:** {r.verdict.title}", ""] ++
    (o.oldPath.map fun p => "- Reference dump: " ++ code p).toList ++
    (o.newPath.map fun p => "- Candidate dump: " ++ code p).toList ++
    [s!"- Generated: {o.generatedAt} by abi-tools 0.1.0", "", "## Summary", "",
      "| Impact | Count |", "|---|---:|"] ++
    Impact.all.map (fun i => s!"| {badge i} | {r.summary.count i} |") ++ [""]

end Markdown

namespace Report

open Markdown in
def markdownText (layout : Markdown.Layout) (o : ReportOptions) (r : Report) : String :=
  let body :=
    if r.groups.isEmpty then ["_No differences to report._"]
    else r.groups.flatMap (sectionLines layout)
  String.join ((headLines o r ++ body).map (· ++ "\n"))

end Report

end HeaderAbi
