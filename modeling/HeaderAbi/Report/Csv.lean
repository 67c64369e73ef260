import HeaderAbi.Report.Basic

/-!
# Reports as comma-separated values

One record a line, after a header record.  The texts that come from snapshots stand in double
quotes; a quote inside is written twice, a line break as a space.
-/

namespace HeaderAbi

namespace Csv

/-- A character inside quotes. -/
def escapeChar (c : Char) : List Char :=
  if c == '"' then ['"', '"'] else if c == '\n' then [' '] else [c]

/-- A text in quotes. -/
def quote (s : String) : String :=
  "\"" ++ String.ofList (s.toList.flatMap escapeChar) ++ "\""

def header : String := "Category,UID,Member,Kind,Impact,Detail"

/-- The record of an entry. -/
def record (e : Entry) : String :=
  ",".intercalate [e.category.key, quote e.uid.text, quote (e.change.part.getD ""), e.kind.word,
    e.impact.label, quote e.change.detail]

end Csv

namespace Report

def csvText (r : Report) : String :=
  String.join ((Csv.header :: r.entries.map Csv.record).map (· ++ "\n"))

end Report

end HeaderAbi
