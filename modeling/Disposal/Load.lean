import Disposal.Disk
import Disposal.SourceFile

/-!
# Loading source files

Reading files from a disk and parsing them.  A file that cannot be read is left out and
reported.
-/

namespace Disposal

/-- A file that was read and parsed, or why it could not be read. -/
abbrev Loaded := Except OsError SourceFile

namespace Loaded

/-- Read and parse a file. -/
def ofPath (disk : Disk) (parse : Parser) (p : Path) : Loaded :=
  (disk.read p).map (SourceFile.ofBytes parse p)

/-- The files that could be read. -/
def files (loaded : List Loaded) : List SourceFile := loaded.filterMap Except.toOption

/-- What is said when a file cannot be read. -/
def failureLog (source : Log.Source) (e : OsError) : List Log.Record :=
  [⟨.error, source, "Failed to read file " ++ e.path.toString ++ ": " ++ e.message⟩]

/-- What is said when a file is loaded for analysis. -/
def log : Loaded → List Log.Record
  | .error e => failureLog .context e
  | .ok f => f.openLog

/-- What is said when a file is only parsed. -/
def parseLog : Loaded → List Log.Record
  | .error e => failureLog .parser e
  | .ok f => f.parseLog ++ [⟨.info, .parser, "Parsed file " ++ f.path.toString ++ ": success=" ++
      SourceFile.showBool !f.hasParseErrors⟩]

end Loaded

end Disposal
