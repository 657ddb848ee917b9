/-!
# What is shown

A report is a list of parts: tables, frames, lines.  A part is put together from texts and the names
of styles; how it looks is the matter of a display, which is given from outside.  Some texts are
marked up: a style mark in brackets begins or ends a style.  A display can refuse a part, since the
marks of a text may be faulty.

* `Display.Part` is a part of a report and `Display.Part.markedTexts` are its texts with marks;
* `Display` is what shows parts, and `Display.ShowsPlain` what is known of it: texts without
  brackets have no marks.
-/

namespace Disposal

namespace Display

/-- The text in a cell of a table: marked up, or shown as it is in one style. -/
inductive Cell where
  | marked (text : String)
  | plain (text style : String)
  deriving DecidableEq, Repr, Inhabited

/-- A column of a table. -/
structure Column where
  header : String
  style : Option String := none
  /-- The cells that text can take, if they are fixed. -/
  width : Option Nat := none
  toRight : Bool := false
  deriving DecidableEq, Repr, Inhabited

/-- A table without vertical rules. -/
structure Table where
  title : Option String := none
  /-- The style of the headers, if they are shown. -/
  headerStyle : Option String := none
  columns : List Column
  rows : List (List Cell)
  deriving DecidableEq, Repr, Inhabited

/-- What stands in a frame. -/
inductive Content where
  /-- Source code, coloured by the rules of a language. -/
  | code (text language theme : String)
  | table (t : Table)
  deriving DecidableEq, Repr, Inhabited

/-- A part of a report. -/
inductive Part where
  | table (t : Table)
  | panel (title borderStyle : String) (content : Content)
  | line (marked : String)
  | blank
  deriving DecidableEq, Repr, Inhabited

/-- The text of a cell if it is marked up. -/
def Cell.marked? : Cell → Option String
  | .marked text => some text
  | .plain _ _ => none

/-- The texts of a table with marks. -/
def Table.markedTexts (t : Table) : List String :=
  t.title.toList ++ t.columns.map Column.header ++ t.rows.flatMap (·.filterMap Cell.marked?)

/-- The texts of a part with marks. -/
def Part.markedTexts : Part → List String
  | .table t => t.markedTexts
  | .panel title _ (.code _ _ _) => [title]
  | .panel title _ (.table t) => title :: t.markedTexts
  | .line marked => [marked]
  | .blank => []

/-- Why a part is refused: the kind of the error and its wording. -/
structure Fault where
  kind : String
  message : String
  deriving DecidableEq, Repr, Inhabited

end Display

/-- A display: the lines that show a part, or why it is refused. -/
structure Display where
  print : Display.Part → Except Display.Fault (List String)

namespace Display

variable (d : Display)

/-- The lines that show some parts, one after the other, up to the first that is refused. -/
def printAll (parts : List Part) : Except Fault (List String) :=
  (parts.mapM d.print).map List.flatten

/-- A part is shown. -/
def Shows (part : Part) : Prop := ∃ lines, d.print part = .ok lines

/-- Marks stand in brackets, so a part is shown if there is no bracket in its texts with marks. -/
def ShowsPlain : Prop := ∀ part : Part, (∀ s ∈ part.markedTexts, '[' ∉ s.toList) → d.Shows part

end Display

end Disposal
