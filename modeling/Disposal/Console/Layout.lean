import Disposal.Console.Width
import Disposal.Text.Blank
import Disposal.Text.Split

/-!
# Laying out text

A text is laid out in a column of some cells: tabs are expanded, lines are broken between words,
and every line is filled up.  A word that is wider than the column is cut, with an ellipsis at its
end.

* `Console.expandTabs` replaces the tabs of a line;
* `Console.breakLine` breaks a line between its words;
* `Console.columnLines` lays out a text in a column, `Console.naturalWidth` is the width at which
  nothing has to be broken;
* `Console.croppedLine` is a line that is cut and never broken.
-/

namespace Disposal.Console

/-! ### Tabs -/

/-- The cells between two tab stops. -/
def tabStop : Nat := 8

/-- The parts of a line between its tabs, each filled up to the next tab stop with at least one
blank, from a position on. -/
def joinTabs (position : Nat) : List (List Char) → List Char
  | [] => []
  | [part] => part
  | part :: parts =>
    let stop := position + width (part ++ [' '])
    let extra := (tabStop - stop % tabStop) % tabStop
    part ++ ' ' :: List.replicate extra ' ' ++ joinTabs (stop + extra) parts

/-- A line with its tabs expanded. -/
def expandTabs (line : List Char) : List Char := joinTabs 0 (Text.splitAt (· = '\t') line)

/-! ### Breaking lines -/

/-- The words of a line, each with the blanks behind it and the first one with those before it,
reading at most `fuel` words.  Blanks alone are no word. -/
def wordsFrom : (fuel : Nat) → List Char → List (List Char)
  | 0, _ => []
  | fuel + 1, s =>
    let before := s.takeWhile Text.isBlank
    let word := (s.drop before.length).takeWhile fun c => !Text.isBlank c
    let behind := (s.drop (before.length + word.length)).takeWhile Text.isBlank
    let all := before ++ word ++ behind
    if word = [] then [] else all :: wordsFrom fuel (s.drop all.length)

/-- The words of a line with the blanks around them. -/
def words (s : List Char) : List (List Char) := wordsFrom s.length s

/-- Put words on lines of some cells.  `line` is the line that is begun and `position` where it
ends; a word goes on the next line if it does not fit. -/
def breakWords (cells : Nat) (line : List Char) (position : Nat) :
    List (List Char) → List (List Char)
  | [] => [line]
  | word :: rest =>
    if position + width (Text.trimEnd Text.isBlank word) ≤ cells ∨ line = [] then
      breakWords cells (line ++ word) (position + width word) rest
    else line :: breakWords cells word (width word) rest

/-- A line broken between its words. -/
def breakLine (cells : Nat) (s : List Char) : List (List Char) :=
  match words s with
  | [] => [s]
  | ws => breakWords cells [] 0 ws

/-- A line without the blanks at its end that are too many for some cells. -/
def dropExcessBlanks (cells : Nat) (s : List Char) : List Char :=
  let blanks := (s.reverse.takeWhile Text.isBlank).length
  s.take (s.length - min blanks (s.length - cells))

/-! ### Columns -/

/-- The side of a column that text stands at. -/
inductive Side where
  | left
  | right
  deriving DecidableEq, Repr, Inhabited

/-- A line cut to some cells, with an ellipsis if anything is cut off. -/
def abridge (cells : Nat) (s : List Char) : List Char :=
  if width s ≤ cells then s else fit (cells - 1) s ++ ['…']

/-- A line that fills some cells. -/
def justify (side : Side) (cells : Nat) (s : List Char) : List Char :=
  match side with
  | .left => padRight cells (abridge cells s)
  | .right => padLeft cells (abridge cells (Text.trimEnd Text.isBlank s))

/-- The lines of a text in a column. -/
def columnLines (side : Side) (cells : Nat) (s : List Char) : List (List Char) :=
  (Text.splitLines s).flatMap fun line =>
    (breakLine cells (expandTabs line)).map fun part =>
      fit cells (justify side cells (dropExcessBlanks cells part))

/-- Whether a character ends a line for the measure of a text. -/
def isLineEnd (c : Char) : Bool :=
  let n := c.toNat
  (10 ≤ n && n ≤ 13) || (28 ≤ n && n ≤ 30) || n = 0x85 || n = 0x2028 || n = 0x2029

/-- The width of the widest line of a text. -/
def naturalWidth (s : List Char) : Nat := widest (Text.splitAt isLineEnd s)

/-- A line that is cut to some cells and never broken. -/
def croppedLine (cells : Nat) (s : List Char) : List Char := crop cells (dropExcessBlanks cells s)

end Disposal.Console
