import HeaderAbi.Report.Basic
import HeaderAbi.Text.Measure

/-!
# Reports on a terminal

Two layouts: `Report.summaryText` lists the entries under their categories, `Report.tableText` sets
them in columns.  Both may be coloured.  Columns are measured in the cells of a terminal, so that they
stay aligned when names hold wide or invisible characters.
-/

namespace HeaderAbi

/-- A way to set off a text on a terminal. -/
inductive Style where
  | red
  | green
  | yellow
  | cyan
  | bold
  | dim
deriving DecidableEq, Inhabited

namespace Style

def code : Style → Nat
  | .red => 31
  | .green => 32
  | .yellow => 33
  | .cyan => 36
  | .bold => 1
  | .dim => 2

/-- A text in a style, or as it is when colours are off. -/
def paint (coloured : Bool) (s : Style) (text : String) : String :=
  if coloured then s!"\x1b[{s.code}m{text}\x1b[0m" else text

def ofImpact : Impact → Style
  | .breaking => .red
  | .nonBreaking => .yellow
  | .informational => .dim

end Style

namespace ChangeKind

/-- The sign of a kind of change at the start of a line. -/
def marker : ChangeKind → String
  | .added => "+"
  | .removed => "-"
  | .changed => "~"

end ChangeKind

/-- A character several times. -/
def repeated (c : Char) (n : Nat) : String := String.ofList (List.replicate n c)

namespace Report

/-- The lines of a group under its category. -/
def groupLines (coloured : Bool) (g : ImpactGroup) : List String :=
  g.entries.map (fun e =>
    let marker := (Style.ofImpact e.impact).paint coloured e.kind.marker
    let detail := Style.dim.paint coloured ("(" ++ e.change.detail ++ ")")
    s!"  {marker} {e.location} {detail}") ++
  if g.omitted = 0 then []
  else ["  " ++ Style.dim.paint coloured s!"… {g.omitted} more {g.impact.title} entries"]

/-- The counts of the impacts that occur. -/
def countLines (coloured : Bool) (s : Summary) : List String :=
  (if s.total = 0 then ["  " ++ Style.dim.paint coloured "No changes"] else []) ++
    (Impact.all.filter (s.count · ≠ 0)).map fun i =>
      let count := (Style.ofImpact i).paint coloured (toString (s.count i))
      s!"  {count} {i.title}"

/-- A report as a short text. -/
def summaryText (coloured : Bool) (o : ReportOptions) (r : Report) : String :=
  let paint (s : Style) (text : String) : String := s.paint coloured text
  let dumps := match o.oldPath, o.newPath with
    | some old, some new => [paint .cyan "Dumps:" ++ s!"  {old} → {new}"]
    | _, _ => []
  let verdict := paint (if r.isCompatible then .green else .red) r.verdict.title
  let groups := r.groups.flatMap fun g =>
    ["", paint .bold (g.category.title ++ ":")] ++ g.impacts.flatMap (groupLines coloured)
  "\n".intercalate ([paint .bold o.heading, paint .dim (repeated '─' 40)] ++ dumps ++
    [paint .cyan "Verdict:" ++ "  " ++ verdict, "", paint .bold "Changes:"] ++
    countLines coloured r.summary ++ groups)

/-- A text filled up with blanks to a number of cells. -/
def pad (m : Measure) (width : Nat) (s : String) : String :=
  s ++ repeated ' ' (width - m.text s)

/-- The longest start of a text whose characters take at most some cells. -/
def cutAt (m : Measure) (room : Nat) : List Char → List Char
  | [] => []
  | c :: cs => if m.cells c ≤ room then c :: cutAt m (room - m.cells c) cs else []

/-- A text cut to a number of cells, with an ellipsis where it was cut. -/
def truncate (m : Measure) (width : Nat) (s : String) : String :=
  if m.text s ≤ width then s
  else String.ofList (cutAt m (width - 1) s.toList) ++ "…"

/-- The widths of the columns of a table. -/
def impactWidth : Nat := 14

def kindWidth : Nat := 8

def categoryWidth : Nat := 16

def locationWidth : Nat := 40

/-- The row of an entry. -/
def entryRow (m : Measure) (coloured : Bool) (e : Entry) : String :=
  " ".intercalate [(Style.ofImpact e.impact).paint coloured (pad m impactWidth e.impact.title),
    pad m kindWidth e.kind.word, pad m categoryWidth e.category.key,
    pad m locationWidth (truncate m locationWidth e.location), e.change.detail]

/-- A report as a table. -/
def tableText (m : Measure) (coloured : Bool) (r : Report) : String :=
  let head (width : Nat) (s : String) : String := Style.bold.paint coloured (pad m width s)
  let s := r.summary
  "\n".intercalate (
    [" ".intercalate [head impactWidth "IMPACT", head kindWidth "KIND",
      head categoryWidth "CATEGORY", head locationWidth "LOCATION", head 0 "DETAIL"],
      repeated '─' 100] ++
    r.entries.map (entryRow m coloured) ++
    ["", s!"Total: {s.breaking} breaking, {s.nonBreaking} non-breaking, " ++
      s!"{s.informational} informational | Verdict: {r.verdict.title}"])

end Report

end HeaderAbi
