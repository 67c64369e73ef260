import HeaderAbi.Report.Csv
import HeaderAbi.Report.Markdown
import HeaderAbi.Report.Structured
import HeaderAbi.Report.Terminal

/-!
# Formats of reports
-/

namespace HeaderAbi

/-- The form of a report. -/
inductive ReportFormat where
  | summary
  | json
  | sarif
  | markdown
  | table
  | csv
deriving DecidableEq, Inhabited

namespace ReportFormat

def all : List ReportFormat := [.summary, .json, .sarif, .markdown, .table, .csv]

def word : ReportFormat → String
  | .summary => "summary"
  | .json => "json"
  | .sarif => "sarif"
  | .markdown => "markdown"
  | .table => "table"
  | .csv => "csv"

def ofWord? (word : String) : Option ReportFormat := all.find? (·.word == word)

/-- For machines rather than people. -/
def isStructured : ReportFormat → Bool
  | .json => true
  | .sarif => true
  | .csv => true
  | _ => false

def toData (f : ReportFormat) : Data := .text f.word

def ofData? (d : Data) : Option ReportFormat := d.asName? (all.map fun f => (f.word, f))

end ReportFormat

namespace Report

/-- A report in a form.  The measure and the colours concern the forms for a terminal. -/
def render (m : Measure) (f : ReportFormat) (coloured : Bool) (o : ReportOptions) (r : Report) :
    String :=
  match f with
  | .summary => r.summaryText coloured o
  | .json => r.jsonText true true o
  | .sarif => r.sarifText true o
  | .markdown => r.markdownText .table o
  | .table => r.tableText m coloured
  | .csv => r.csvText

end Report

end HeaderAbi
