import Disposal.Log
import Disposal.Node
import Disposal.Text.Quoted

/-!
# Source files

A source file is its path, its bytes without a byte order mark, and the syntax tree a parser
gives for them.  A file that could not be parsed in full is kept: the declarations around the
errors can still be analysed.

* `SourceFile.ofBytes` parses a file, `SourceFile.parseLog` and `SourceFile.openLog` tell about
  it;
* `SourceFile.describeErrors` lists the first positions where parsing broke;
* `SourceFile.locate` is the location of a node.
-/

namespace Disposal

/-- A parser gives the root of the syntax tree of any bytes. -/
abbrev Parser := Text.Bytes → Node

/-- A parsed source file. -/
structure SourceFile where
  path : Path
  /-- The bytes without a byte order mark; the offsets of the tree count from here. -/
  source : Text.Bytes
  root : Node
  deriving Repr, Inhabited

namespace SourceFile

/-- Parse the bytes of a file. -/
def ofBytes (parse : Parser) (path : Path) (bytes : Text.Bytes) : SourceFile :=
  let source := Text.stripMark bytes
  ⟨path, source, parse source⟩

/-- Whether some part of the file could not be parsed. -/
def hasParseErrors (f : SourceFile) : Bool := f.root.hasError

/-- The number of nodes and the number of type declarations. -/
def stats (f : SourceFile) : Nat × Nat :=
  (f.root.preorder.length, f.root.preorder.countP fun n => n.typeKind?.isSome)

/-- Line and column, counted from 1, of a node. -/
def lineColumn (f : SourceFile) (n : Node) : Nat × Nat :=
  let (row, column) := n.point f.source
  (row + 1, column + 1)

/-- The location of a node, with the first line of its text. -/
def locate (f : SourceFile) (n : Node) : Location :=
  let (line, column) := f.lineColumn n
  let snippet := Text.trim (Text.firstLine (n.text f.source))
  { path := f.path, line, column, snippet := if snippet = "" then none else some snippet }

/-- One position where parsing broke. -/
def describeError (f : SourceFile) (n : Node) : String :=
  let (line, column) := f.lineColumn n
  let label := if n.isMissing then "missing " ++ n.kind else "error"
  Nat.repr line ++ ":" ++ Nat.repr column ++ " " ++ label

/-- How many positions a warning lists. -/
def reportedErrors : Int := 3

/-- The first `limit` positions where parsing broke, and how many more there are. -/
def describeErrors (f : SourceFile) (limit : Int := reportedErrors) : String :=
  let errors := f.root.errors
  let total : Int := errors.length
  let listed := ", ".intercalate ((errors.take limit.toNat).map f.describeError)
  if limit < total then listed ++ " (+" ++ Int.repr (total - limit) ++ " more)" else listed

/-- The written form of a truth value. -/
def showBool (b : Bool) : String := if b then "True" else "False"

/-- A short description of a file. -/
def describe (f : SourceFile) : String :=
  "FileContext(path=PosixPath(" ++ Text.quote f.path.toString ++ "), has_parse_errors=" ++
    showBool f.hasParseErrors ++ ")"

/-! ### What parsing says -/

/-- What the parser says about a file. -/
def parseLog (f : SourceFile) : List Log.Record :=
  if f.hasParseErrors then
    [⟨.warning, .parser, "Parse completed with errors at " ++ f.describeErrors⟩]
  else [⟨.debug, .parser, "Parse succeeded: root=" ++ f.root.kind⟩]

/-- What is said when a file is opened for analysis. -/
def openLog (f : SourceFile) : List Log.Record :=
  let (nodes, types) := f.stats
  let path := f.path.toString
  f.parseLog ++
    (if f.hasParseErrors then
      [⟨.warning, .context, "File " ++ path ++ " parsed with syntax errors; AST may be incomplete"⟩]
    else []) ++
    [⟨.info, .context, "Parsed " ++ path ++ ": " ++ Nat.repr nodes ++ " nodes, " ++
      Nat.repr types ++ " type declaration(s)" ++
      if f.hasParseErrors then " (with parse errors)" else ""⟩]

end SourceFile

end Disposal
