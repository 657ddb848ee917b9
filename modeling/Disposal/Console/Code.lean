import Disposal.Console.Control
import Disposal.Console.Layout

/-!
# Source code on the console

Source code is shown line by line: tabs are expanded, line ends are made alike, and each line is
cut to the width it is given.  The parts of a line that are coloured alike are measured apart, so
that a joiner or selector between two of them joins nothing; comments, texts and names are such
parts, and every other character is one of its own.

* `Console.codeText` is source code with its tabs and line ends made alike;
* `Console.codeParts` cuts source code into parts;
* `Console.codeLines` are its lines, cut and filled up to some cells.
-/

namespace Disposal.Console

/-! ### Tabs and line ends -/

/-- The columns between two tab stops of source code. -/
def codeTabStop : Nat := 4

/-- Source code with every tab filled up to the next tab stop, from a column on. -/
def expandCodeTabs : (column : Nat) → List Char → List Char
  | _, [] => []
  | column, c :: s =>
    if c = '\t' then
      let gap := codeTabStop - column % codeTabStop
      List.replicate gap ' ' ++ expandCodeTabs (column + gap) s
    else c :: expandCodeTabs (if c = '\n' ∨ c = '\r' then 0 else column + 1) s

/-- Line ends of one kind: a line feed alone.  `after` says whether a carriage return comes
before. -/
def unifyLineEnds (after : Bool) : List Char → List Char
  | [] => []
  | c :: s =>
    if c = '\r' then '\n' :: unifyLineEnds true s
    else if c = '\n' ∧ after then unifyLineEnds false s
    else c :: unifyLineEnds false s

/-- Source code without the mark of its encoding. -/
def dropMark : List Char → List Char
  | [] => []
  | c :: s => if c.toNat = 0xFEFF then s else c :: s

/-- Source code as it is shown.  The last line counts as ended by a line feed when line ends are
made alike. -/
def codeText (code : List Char) : List Char :=
  let unify (s : List Char) := unifyLineEnds false (dropMark (expandCodeTabs 0 s))
  dropControls <|
    if code.getLast? = some '\n' then unify code else (unify (code ++ ['\n'])).dropLast

/-! ### Parts -/

/-- Letters that begin a name: those of ASCII and of the Latin, Greek and Cyrillic blocks. -/
def isNameStart (c : Char) : Bool :=
  let n := c.toNat
  c.isAlpha || c = '_' || (0xC0 ≤ n && n ≤ 0x24F && n ≠ 0xD7 && n ≠ 0xF7) ||
    (0x370 ≤ n && n ≤ 0x52F && !inRanges zeroWidth n)

/-- Characters that go on with a name: letters, digits and marks. -/
def isNamePart (c : Char) : Bool :=
  isNameStart c || c.isDigit || (160 ≤ c.toNat && inRanges zeroWidth c.toNat)

/-- The length of a comment between stars behind its opening, if it is closed. -/
def starComment? : List Char → Option Nat
  | '*' :: '/' :: _ => some 2
  | [] => none
  | _ :: s => (starComment? s).map (· + 1)

/-- The length of a text in quotes behind its opening, up to the closing quote or the end of the
line; a backslash takes the next character with it. -/
def quoted? (escaped : Bool) : List Char → Option Nat
  | [] => none
  | c :: s =>
    if escaped then (quoted? false s).map (· + 1)
    else if c = '"' ∨ c = '\n' then some 1
    else (quoted? (c = '\\') s).map (· + 1)

/-- The length of a text in quotes in which a quote is written twice. -/
def doubled? : List Char → Option Nat
  | '"' :: '"' :: s => (doubled? s).map (· + 2)
  | '"' :: _ => some 1
  | [] => none
  | _ :: s => (doubled? s).map (· + 1)

/-- The length of the part at the head of source code. -/
def partLength : List Char → Nat
  | '/' :: '/' :: s => 2 + (s.takeWhile (· ≠ '\n')).length
  | '/' :: '*' :: s => ((starComment? s).map (· + 2)).getD 1
  | '@' :: '"' :: s => ((doubled? s).map (· + 2)).getD 1
  | '$' :: '"' :: s => ((doubled? s).map (· + 2)).getD 1
  | '$' :: '@' :: '"' :: s => ((doubled? s).map (· + 3)).getD 1
  | '"' :: s => ((quoted? false s).map (· + 1)).getD 1
  | c :: s => if isNameStart c then 1 + (s.takeWhile isNamePart).length else 1
  | [] => 1

/-- The parts of source code, where `done` is what is read of the first one, its last character
first, and `pending` how many of its characters are still to come. -/
def codePartsFrom (done : List Char) : (pending : Nat) → List Char → List (List Char)
  | _, [] => [done.reverse]
  | pending + 1, c :: s => codePartsFrom (c :: done) pending s
  | 0, c :: s => done.reverse :: codePartsFrom [c] (partLength (c :: s) - 1) s

/-- The parts of source code. -/
def codeParts (s : List Char) : List (List Char) := codePartsFrom [] 0 s

/-- The lines of source code, each with its parts; a part may go over several lines. -/
def lineParts (parts : List (List Char)) : List (List (List Char)) :=
  parts.foldr (fun part lines =>
    match Text.splitLines part, lines with
    | [], lines => lines
    | pieces, [] => pieces.map fun piece => [piece]
    | pieces, line :: lines =>
      pieces.dropLast.map (fun piece => [piece]) ++
        ((pieces.getLast?.toList ++ line) :: lines)) []

/-! ### Lines -/

/-- The first cells of some parts. -/
def cropParts : Nat → List (List Char) → List Char
  | _, [] => []
  | n, part :: parts =>
    if width part < n then part ++ cropParts (n - width part) parts else fit n part

/-- Some parts cut or filled up to some cells, each part measured apart. -/
def fitParts (n : Nat) (parts : List (List Char)) : List Char :=
  let cells := (parts.map width).foldl (· + ·) 0
  if cells ≤ n then parts.flatten ++ List.replicate (n - cells) ' ' else cropParts n parts

/-- The lines of source code, cut and filled up to some cells. -/
def codeLines (cells : Nat) (code : String) : List (List Char) :=
  (lineParts (codeParts (codeText code.toList))).map fun parts =>
    let line := parts.flatten
    if croppedLine cells line = line then fitParts cells parts
    else fit cells (croppedLine cells line)

end Disposal.Console
