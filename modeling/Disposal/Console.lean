import Disposal.Console.Code
import Disposal.Console.Markup
import Disposal.Console.Table
import Disposal.Display

/-!
# A console

One display for the program to show its reports on: a console of 200 cells without colours.  The
program itself is told with any display (`Command.run`), and nothing that is proved of it speaks
of this one.  The tables of wide characters and of pictures stand here for its output alone.

* `Console.panel` draws a frame, `Console.topLine` its upper side with the title;
* `Console.display` is the display.
-/

namespace Disposal.Console

/-- The cells of a line. -/
def lineWidth : Nat := 200

/-- The cells between the two sides of a frame, one blank on both sides left out. -/
def innerWidth : Nat := lineWidth - 4

/-- The upper side of a frame, with a title in its middle. -/
def topLine (title : List Char) : List Char :=
  let title := expandTabs (title.map fun c => if c = '\n' then ' ' else c)
  let shown := crop innerWidth (' ' :: title ++ [' '])
  ['╭', '─'] ++ dropExcessBlanks innerWidth (centre innerWidth '─' shown) ++ ['─', '╮']

/-- Lines in a frame, with a title if there is one. -/
def panel (title : Option (List Char)) (lines : List (List Char)) : List (List Char) :=
  let side := List.replicate (lineWidth - 2) '─'
  [match title with
    | some title => topLine title
    | none => '╭' :: side ++ ['╮']] ++
    lines.map (fun line => ['│', ' '] ++ line ++ [' ', '│']) ++ ['╰' :: side ++ ['╯']]

/-! ### The display -/

/-- A text with marks as it is shown, or what is wrong with them. -/
def shown (text : String) : Except Display.Fault (List Char) :=
  match render text with
  | .ok shown => .ok shown
  | .error e => .error ⟨e.kind, e.message⟩

/-- The text of a cell as it is shown. -/
def cellText : Display.Cell → Except Display.Fault (List Char)
  | .marked text => shown text
  | .plain text _ => .ok (dropControls text.toList)

/-- A column with the cells that stand in it, and with its header if headers are shown. -/
def column (headed : Bool) (c : Display.Column) (cells : List Display.Cell) :
    Except Display.Fault Column := do
  let header ← if headed then shown c.header else pure []
  let cells ← cells.mapM cellText
  return { header, fixed := c.width, side := if c.toRight then .right else .left, cells }

/-- A table as it is drawn, column by column. -/
def drawn (t : Display.Table) : Except Display.Fault Table := do
  let title ← t.title.mapM shown
  let headed := t.headerStyle.isSome
  let columns ← t.columns.zipIdx.mapM fun (c, i) => column headed c (t.rows.filterMap (·[i]?))
  return { title, hasHead := headed, columns }

/-- The lines in a frame. -/
def contentLines : Display.Content → Except Display.Fault (List (List Char))
  | .code text _ _ => .ok (codeLines innerWidth text)
  | .table t => (drawn t).map fun t => (t.lines innerWidth).map (padRight innerWidth)

/-- The lines of a part. -/
def partLines : Display.Part → Except Display.Fault (List (List Char))
  | .table t => (drawn t).map (·.lines lineWidth)
  | .panel title _ content => do
    let title ← if title = "" then pure none else (shown title).map some
    return panel title (← contentLines content)
  | .line marked => (shown marked).map ([·])
  | .blank => .ok [[]]

/-- A console of 200 cells without colours. -/
def display : Display where
  print part := (partLines part).map (·.map String.ofList)

end Disposal.Console
