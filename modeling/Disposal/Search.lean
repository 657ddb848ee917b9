import Disposal.Disk
import Disposal.Log

/-!
# Finding source files

The source files below a directory: those with the suffix `.cs`, without the sources that tools
generate and without what stands in build and tool directories.  The result is in the order of
paths, whatever the order of the directories' listings.

* `Search.isSource`, `Search.isGenerated`, `Search.defaultIgnored` sort names;
* `Search.filesBelow` walks a directory.  An entry whose path is too long ends the listing of its
  directory, which is said, and the walk goes on behind this directory;
* `Search.walk` starts at a path and is what the command line uses, `Search.find` are the files
  found.
-/

namespace Disposal

namespace Search

/-- A text with its ASCII letters in lower case.  No other letter has a lower-case form in the
suffixes looked for. -/
def lower (s : String) : String := String.ofList (s.toList.map Char.toLower)

/-- Whether a path names a source file. -/
def isSource (p : Path) : Bool := lower p.suffix == ".cs"

/-- The endings of sources that tools write. -/
def generatedSuffixes : List String := [".g.cs", ".g.i.cs", ".designer.cs", ".generated.cs"]

/-- Whether a path names a source that a tool wrote. -/
def isGenerated (p : Path) : Bool :=
  generatedSuffixes.any fun suffix => suffix.toList.isSuffixOf (lower p.name).toList

/-- The names of directories that are passed over. -/
def defaultIgnored : List String :=
  ["bin", "obj", "artifacts", "TestResults", "packages", ".git", ".svn", ".hg", ".vs", ".vscode",
    ".idea", "node_modules", "__pycache__", ".cache"]

/-- Whether a directory is passed over. -/
def isIgnored (ignored : List String) (p : Path) : Bool := ignored.contains p.name

/-- What to look for. -/
structure Query where
  includeGenerated : Bool := false
  /-- Names of directories that are passed over. -/
  ignored : List String := defaultIgnored
  followLinks : Bool := false
  /-- A further test on paths. -/
  accept : Path → Bool := fun _ => true

/-- Whether a file is looked for. -/
def Query.wants (q : Query) (p : Path) : Bool :=
  isSource p && (q.includeGenerated || !isGenerated p) && q.accept p

/-! ### Walks -/

/-- Why what stands under a name of a directory cannot be looked at.  `shown` is the path that the
directory was reached by. -/
def entryFault? (shown : Path) (name : String) : Option OsError.Cause :=
  (Disk.pathFault? (shown.child name)).or
    (if Disk.nameLimit < name.utf8ByteSize then some .nameTooLong else none)

/-- What a walk gives: the wanted files, and what is said about the directories whose listings
ended early. -/
structure Walk where
  files : List Path := []
  said : List Log.Record := []
  deriving DecidableEq, Repr, Inhabited

namespace Walk

/-- Two walks, one after the other. -/
def append (v w : Walk) : Walk := ⟨v.files ++ w.files, v.said ++ w.said⟩

instance : Append Walk := ⟨append⟩

/-- The walk to a file. -/
def file (q : Query) (p : Path) : Walk where
  files := if q.wants p then [p] else []

/-- A listing of the directory `shown` that ends at an entry. -/
def ended (shown : Path) (e : OsError) : Walk where
  said := [⟨.warning, .traversal,
    "Error accessing directory " ++ shown.toString ++ ": " ++ e.message⟩]

/-- The walk along a listing from one entry on: what is found at the entry, and the walk behind it.
A path that is too long, that of the entry or what it leads to, ends the listing; a name that
cannot stand in a path is passed over. -/
def listed (shown : Path) (name : String) (here : Except OsError.Cause Walk) (rest : Walk) :
    Walk :=
  match entryFault? shown name, here with
  | some .endedPath, _ => rest
  | some cause, _ => ended shown ⟨cause, shown.child name⟩
  | none, .error cause => ended shown ⟨cause, shown.child name⟩
  | none, .ok found => found ++ rest

end Walk

/-- The wanted files of a directory.  `shown` is the path that the directory was reached by and
`place` where it stands; links are followed if the query says so, at most `links` of them on one
way, and a link that leads nowhere is passed over. -/
def filesBelow (disk : Disk) (q : Query) (links : Nat) (shown : Path) (place : List String) :
    Directory → Walk
  | [] => {}
  | (name, .file _) :: es =>
    .listed shown name (.ok (.file q (shown.child name))) (filesBelow disk q links shown place es)
  | (name, .directory sub) :: es =>
    .listed shown name
      (.ok (if isIgnored q.ignored (shown.child name) then {}
        else filesBelow disk q links (shown.child name) (place ++ [name]) sub))
      (filesBelow disk q links shown place es)
  | (name, .link _) :: es =>
    .listed shown name
      (match q.followLinks, disk.resolveFrom links place [name] with
        | true, .ok (.present target, left) =>
          match disk.entryAt? target with
          | some (.file _) => .ok (.file q (shown.child name))
          | some (.directory sub) =>
            if isIgnored q.ignored (shown.child name) then .ok {}
            else if left < links then .ok (filesBelow disk q left (shown.child name) target sub)
            else .ok {}
          | _ => .ok {}
        | true, .error .nameTooLong => .error .nameTooLong
        | _, _ => .ok {})
      (filesBelow disk q links shown place es)
termination_by es => (links, sizeOf es)

/-! ### Searches -/

/-- Why a search cannot start. -/
inductive Failure where
  | noRoot (root : Path)
  | notDirectory (root : Path)
  /-- The path of the root cannot be used at all. -/
  | disk (e : OsError)
  deriving DecidableEq, Repr, Inhabited

/-- The wording of a failure. -/
def Failure.message : Failure → String
  | .noRoot root => "Root directory does not exist: " ++ root.toString
  | .notDirectory root => "Root path is not a directory: " ++ root.toString
  | .disk e => e.message

/-- The walk below a path, with the wanted files in order. -/
def walk (disk : Disk) (q : Query) (root : Path) : Except Failure Walk :=
  let root := disk.realPath root
  match disk.entry root with
  | .error e =>
    .error (if e.cause = .nameTooLong ∨ e.cause = .endedPath then .disk e else .noRoot root)
  | .ok (.directory es) =>
    let found := filesBelow disk q Disk.linkLimit root root.parts es
    .ok { found with files := found.files.mergeSort Path.le }
  | .ok _ => .error (.notDirectory root)

/-- The wanted files below a path, in order. -/
def find (disk : Disk) (q : Query) (root : Path) : Except Failure (List Path) :=
  (walk disk q root).map Walk.files

/-- What a search says. -/
def log (disk : Disk) (root : Path) (outcome : Except Failure Walk) : List Log.Record :=
  let root := (disk.realPath root).toString
  match outcome with
  | .error (.disk _) => []
  | .error e => [⟨.error, .traversal, e.message⟩]
  | .ok found =>
    ⟨.info, .traversal, "Starting traversal from: " ++ root⟩ :: found.said ++
      [⟨.info, .traversal, "Traversal complete: found " ++ Nat.repr found.files.length ++
        " source file(s) in " ++ root⟩]

end Search

end Disposal
