import Disposal.Console.Layout

/-!
# Tables

A table without vertical rules: columns of text with a blank on both sides and a blank between
them.  A column is as wide as its widest line unless its width is fixed; if the table is too wide,
its widest columns are narrowed until it fits.

* `Console.Column` is a column, `Console.Column.wanted` the width it asks for;
* `Console.collapse` narrows columns;
* `Console.Table.lines` draws a table.
-/

namespace Disposal.Console

/-- A column of a table. -/
structure Column where
  /-- The text at the head of the column, if the table has a head. -/
  header : List Char := []
  /-- The cells that text can take, if they are fixed. -/
  fixed : Option Nat := none
  side : Side := .left
  /-- The texts of the rows. -/
  cells : List (List Char)
  deriving DecidableEq, Repr, Inhabited

/-- The blanks on both sides of a text. -/
def padding : Nat := 2

/-- The width that a column asks for, its blanks included. -/
def Column.wanted (c : Column) : Nat :=
  padding + c.fixed.getD (((c.header :: c.cells).map naturalWidth).foldl max 0)

/-! ### Narrowing -/

/-- A quotient rounded to the nearest whole number, a half to the even one. -/
def roundHalfEven (n d : Nat) : Nat :=
  let q := n / d
  let r := n % d
  if 2 * r < d ∨ (2 * r = d ∧ q % 2 = 0) then q else q + 1

/-- Take `excess` from the marked widths in equal shares, at most `limit` from each; `shares` is
how many marked ones are left. -/
def takeShares (limit : Nat) : (excess shares : Nat) → List (Nat × Bool) → List Nat
  | _, _, [] => []
  | excess, shares, (w, marked) :: ws =>
    if marked then
      let taken := min limit (roundHalfEven excess shares)
      (w - taken) :: takeShares limit (excess - taken) (shares - 1) ws
    else w :: takeShares limit excess shares ws

/-- The sum of some widths. -/
def total (ws : List Nat) : Nat := ws.foldl (· + ·) 0

/-- Narrow the columns that may be narrowed until all fit `room`, in at most `fuel` rounds.  A
round narrows the widest columns down to the next one. -/
def collapse (room : Nat) (flexible : List Bool) : (fuel : Nat) → List Nat → List Nat
  | 0, ws => ws
  | fuel + 1, ws =>
    let excess := total ws - room
    let free := (ws.zip flexible).filterMap fun (w, f) => if f then some w else none
    let most := free.foldl max 0
    let second := (free.filter (· ≠ most)).foldl max 0
    let marked := ws.zip (((ws.zip flexible).map fun (w, f) => f && w == most))
    if excess = 0 ∨ most = 0 then ws
    else collapse room flexible fuel
      (takeShares (min excess (most - second)) excess (marked.countP Prod.snd) marked)

/-! ### Drawing -/

/-- A table with columns of equal length. -/
structure Table where
  title : Option (List Char) := none
  hasHead : Bool := true
  columns : List Column
  deriving DecidableEq, Repr, Inhabited

namespace Table

variable (t : Table)

/-- The cells beside the columns: one at each end and one between two of them. -/
def edges : Nat := t.columns.length + 1

/-- The widths of the columns in a line of `room` cells, their blanks included. -/
def widths (room : Nat) : List Nat :=
  let room := room - t.edges
  let ws := t.columns.map fun c => min c.wanted room
  collapse room (t.columns.map fun c => c.fixed.isNone) (total ws) ws

/-- The lines of a row: each text laid out in its column, short ones filled up with blank lines. -/
def rowLines (ws : List Nat) (sides : List Side) (texts : List (List Char)) : List (List Char) :=
  let blocks := (ws.zip (sides.zip texts)).map fun (w, side, text) =>
    (w, columnLines side (w - padding) text)
  let height := (blocks.map fun b => b.2.length).foldl max 1
  (List.range height).map fun i =>
    ' ' :: (blocks.flatMap fun (w, lines) =>
      ' ' :: (lines[i]?).getD (List.replicate (w - padding) ' ') ++ [' ', ' '])

/-- The texts of a row. -/
def row (i : Nat) : List (List Char) := t.columns.map fun c => (c.cells[i]?).getD []

/-- The lines of a table in lines of `room` cells. -/
def lines (room : Nat) : List (List Char) :=
  let ws := t.widths room
  let w := total ws + t.edges
  let sides := t.columns.map Column.side
  let rows := (List.range ((t.columns.map fun c => c.cells.length).foldl max 0)).flatMap fun i =>
    rowLines ws sides (t.row i)
  let head := if t.hasHead then
      rowLines ws sides (t.columns.map Column.header) ++
        [' ' :: List.replicate (w - 2) '─' ++ [' ']]
    else []
  t.title.toList.map (centre w ' ') ++ [List.replicate w ' '] ++ head ++ rows ++
    [List.replicate w ' ']

end Table

end Disposal.Console
