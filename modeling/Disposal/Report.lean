import Disposal.Display
import Disposal.Pass
import Disposal.Text.Upper

/-!
# Reports

What a run shows: the generated sources, the findings as a table in the order of their places, and a
summary.  Paths, messages, the keys of sources and the output directory are put into marked-up
texts as they are.

* `Report.findings`, `Report.artifacts`, `Report.summary` are the parts for a display.
-/

namespace Disposal.Report

/-! ### Findings -/

/-- The place of a finding: a location in a file, else the type concerned. -/
def placeText (shorten : Path → Path) (f : Finding) : String :=
  match f.location with
  | some l => (shorten l.path).toString ++ ":" ++ Nat.repr l.line ++ ":" ++ Nat.repr l.column
  | none => match f.symbol with
    | some s => if s = "" then "-" else s
    | none => "-"

/-- What findings are ordered by. -/
def sortKey (f : Finding) : String × Nat × Nat :=
  match f.location with
  | some l => (l.path.toString, l.line, l.column)
  | none => (f.symbol.getD "", 0, 0)

/-- Whether a finding may stand before another. -/
def before (f g : Finding) : Bool :=
  let (p, l, c) := sortKey f
  let (p', l', c') := sortKey g
  if p = p' then if l = l' then c ≤ c' else l < l' else p < p'

/-- The findings in the order of their places; findings at one place keep their order. -/
def ordered (findings : List Finding) : List Finding := findings.mergeSort before

/-- The styles of severities. -/
def severityStyles : List (String × String) :=
  [("error", "bold red"), ("warning", "bold yellow"), ("info", "bold blue")]

/-- The style that a severity is shown in, whatever the case of its letters. -/
def severityStyle (severity : String) : String :=
  (severityStyles.lookup (String.ofList (severity.toList.map Char.toLower))).getD "bold white"

/-- The table of some findings. -/
def table (shorten : Path → Path) (found : List Finding) : Display.Table where
  title := some "Diagnostics"
  headerStyle := some "bold magenta"
  columns := [{ header := "Location", style := some "cyan" },
    { header := "Severity", width := some 8 }, { header := "Code", width := some 7 },
    { header := "Message", style := some "white" }]
  rows := found.map fun f => [.marked (placeText shorten f),
    .plain (String.ofList (Text.upper f.severity.toList)) (severityStyle f.severity),
    .plain f.rule "dim", .marked f.message]

/-- The hint how to mend what a check finds. -/
def hint (d : Diagnostic) : Display.Part :=
  .line ("  [dim][Fix][/dim] [" ++ d.id ++ "] " ++ d.hint)

/-- The hints for the rules of some findings, each rule once. -/
def hints (found : List Finding) : List Display.Part :=
  (firstOccurrences (found.map Finding.rule)).filterMap fun rule => (Diagnostic.ofId? rule).map hint

/-- The findings as a table, with hints how to mend them when `verbose`. -/
def findings (shorten : Path → Path) (verbose : Bool) (found : List Finding) :
    List Display.Part :=
  if found.isEmpty then []
  else
    let sorted := ordered found
    .table (table shorten sorted) :: if verbose then hints sorted ++ [.blank] else []

/-! ### Generated sources -/

/-- The generated sources, each in a frame with its key. -/
def artifacts (sources : List (String × String)) : List Display.Part :=
  sources.map fun (key, text) => .panel key "blue" (.code text "csharp" "ansi_dark")

/-! ### Summary -/

/-- What a summary counts. -/
structure Totals where
  files : Nat
  /-- How many declarations were looked at; a number given from outside may be negative. -/
  candidates : Int
  artifacts : Nat
  findings : List Finding
  deriving DecidableEq, Repr, Inhabited

/-- The style of the frame of a summary: whether there are errors, other findings, or none. -/
def Totals.style (t : Totals) : String :=
  if t.findings.any Finding.isError then "red" else if t.findings.isEmpty then "green" else "yellow"

/-- The summary of a run, with the directory that sources are written to. -/
def summary (shorten : Path → Path) (totals : Totals) (out : Option Path) : Display.Part :=
  .panel "Dispose generation" totals.style (.table {
    columns := [{ header := "What", style := some "bold" }, { header := "Count", toRight := true }]
    rows := [[.marked "Files analyzed", .marked (Nat.repr totals.files)],
      [.marked "Candidates", .marked (Int.repr totals.candidates)],
      [.marked "Generated", .marked (Nat.repr totals.artifacts)],
      [.marked "Findings", .marked (Nat.repr totals.findings.length)]] ++
      out.toList.map fun p => [.marked "Output", .marked (shorten p).toString] })

end Disposal.Report
