import Disposal.Path
import Disposal.Text.Quoted
import Disposal.Text.Utf8

/-!
# Disks

A disk is a tree of directories, files and symbolic links, with a working directory in it.  A
path is followed from the root or from the working directory, one component after the other;
links are replaced by their targets, but not more than 40 of them on one way.  A name has at most
255 bytes, a path at most 4095.  A file owns its bytes, so no two names stand for the same file.

* `Disk.resolve` follows a path to the place it stands for;
* `Disk.entry`, `Disk.read`, `Disk.isFile`, `Disk.isDirectory` look at what is there;
* `Disk.realPath` is the path without links, as far as it can be followed;
* `OsError` is why an operation fails.
-/

namespace Disposal

/-- What stands under a name in a directory. -/
inductive Entry where
  | file (bytes : Text.Bytes)
  | directory (entries : List (String × Entry))
  | link (target : Path)
  deriving Repr, Inhabited

/-- The contents of a directory. -/
abbrev Directory := List (String × Entry)

/-- The causes for which an operation on a disk fails. -/
inductive OsError.Cause where
  | notFound
  | alreadyExists
  | notDirectory
  | isDirectory
  | tooManyLinks
  | nameTooLong
  /-- The path holds the character that ends a path. -/
  | endedPath
  deriving DecidableEq, Repr, Inhabited

/-- A failed operation. -/
structure OsError where
  cause : OsError.Cause
  path : Path
  deriving DecidableEq, Repr, Inhabited

namespace OsError

/-- The number of a cause, if it has one. -/
def Cause.number? : Cause → Option Nat
  | .notFound => some 2
  | .alreadyExists => some 17
  | .notDirectory => some 20
  | .isDirectory => some 21
  | .nameTooLong => some 36
  | .tooManyLinks => some 40
  | .endedPath => none

/-- The wording of a cause. -/
def Cause.text : Cause → String
  | .notFound => "No such file or directory"
  | .alreadyExists => "File exists"
  | .notDirectory => "Not a directory"
  | .isDirectory => "Is a directory"
  | .nameTooLong => "File name too long"
  | .tooManyLinks => "Too many levels of symbolic links"
  | .endedPath => "embedded null byte"

/-- The wording of an error: with the number of its cause and the path, or the cause alone. -/
def message (e : OsError) : String :=
  match e.cause.number? with
  | some n => "[Errno " ++ Nat.repr n ++ "] " ++ e.cause.text ++ ": " ++ Text.quote e.path.toString
  | none => e.cause.text

end OsError

/-- A disk with a working directory. -/
structure Disk where
  root : Directory := []
  /-- Components of the working directory, from the root. -/
  workingDirectory : List String := []
  deriving Repr, Inhabited

/-- Where a path leads: to an entry, or to a name that is free in a directory.  Places are given
by their components from the root, none of them a link. -/
inductive Disk.Target where
  | present (place : List String)
  | absent (parent : List String) (name : String)
  deriving DecidableEq, Repr, Inhabited

/-- The entry at some components below another. -/
def Entry.below? : List String → Entry → Option Entry
  | [], e => some e
  | name :: names, .directory es => (es.lookup name).bind (below? names)
  | _ :: _, _ => none

namespace Disk

variable (disk : Disk)

/-- The entry at a place. -/
def entryAt? (place : List String) : Option Entry := (Entry.directory disk.root).below? place

/-- How many links may stand on one way. -/
def linkLimit : Nat := 40

/-- The most bytes of a name. -/
def nameLimit : Nat := 255

/-- The most bytes of a path. -/
def pathLimit : Nat := 4095

/-- Why a path cannot be used at all, whatever is on the disk. -/
def pathFault? (p : Path) : Option OsError.Cause :=
  if p.parts.any fun name => name.toList.contains '\x00' then some .endedPath
  else if pathLimit < p.toString.utf8ByteSize then some .nameTooLong
  else none

/-- What the next component of a way leads to. -/
inductive Step where
  | fail (cause : OsError.Cause)
  | free (name : String)
  | descend (place : List String)
  | follow (target : Path)
  deriving Repr, Inhabited

/-- The step from a place along one component. -/
def step (place : List String) (name : String) : Step :=
  match disk.entryAt? place with
  | some (.directory es) =>
    if name = ".." then .descend place.dropLast
    else if nameLimit < name.utf8ByteSize then .fail .nameTooLong
    else match es.lookup name with
      | none => .free name
      | some (.link target) => .follow target
      | some _ => .descend (place ++ [name])
  | some (.file _) => .fail .notDirectory
  | _ => .fail .notFound

/-- Where a link starts that stands at a place. -/
def linkStart (place : List String) (target : Path) : List String :=
  if target.isAbsolute then [] else place

/-- Follow the pending components from a place with at most `links` links; gives the target and
the links that are left. -/
def resolveFrom (links : Nat) (place : List String) :
    (pending : List String) → Except OsError.Cause (Target × Nat)
  | [] => .ok (.present place, links)
  | name :: pending =>
    match disk.step place name with
    | .fail cause => .error cause
    | .free name => if pending = [] then .ok (.absent place name, links) else .error .notFound
    | .descend place => resolveFrom links place pending
    | .follow target =>
      match links with
      | 0 => .error .tooManyLinks
      | links + 1 => resolveFrom links (linkStart place target) (target.parts ++ pending)
termination_by pending => (links, pending.length)

/-- Where following a path starts. -/
def start (p : Path) : List String := if p.isAbsolute then [] else disk.workingDirectory

/-- Follow a path. -/
def resolve (p : Path) : Except OsError.Cause Target :=
  match pathFault? p with
  | some cause => .error cause
  | none => (disk.resolveFrom linkLimit (disk.start p) p.parts).map Prod.fst

/-- The entry that a path leads to. -/
def entry (p : Path) : Except OsError Entry :=
  match disk.resolve p with
  | .error cause => .error ⟨cause, p⟩
  | .ok (.absent _ _) => .error ⟨.notFound, p⟩
  | .ok (.present place) =>
    match disk.entryAt? place with
    | some e => .ok e
    | none => .error ⟨.notFound, p⟩

/-- Whether a path leads to anything. -/
def holds (p : Path) : Bool := (disk.entry p).isOk

/-- Whether a path leads to a file. -/
def isFile (p : Path) : Bool :=
  match disk.entry p with
  | .ok (.file _) => true
  | _ => false

/-- Whether a path leads to a directory. -/
def isDirectory (p : Path) : Bool :=
  match disk.entry p with
  | .ok (.directory _) => true
  | _ => false

/-- The bytes of a file. -/
def read (p : Path) : Except OsError Text.Bytes :=
  match disk.entry p with
  | .error e => .error e
  | .ok (.file bytes) => .ok bytes
  | .ok (.directory _) => .error ⟨.isDirectory, p⟩
  | .ok (.link _) => .error ⟨.tooManyLinks, p⟩

/-- Replace links by their targets; a component that leads nowhere is kept as it is written. -/
def realFrom (links : Nat) (place : List String) : (pending : List String) → List String
  | [] => place
  | name :: pending =>
    match disk.step place name with
    | .fail _ => realFrom links (if name = ".." then place.dropLast else place ++ [name]) pending
    | .free name => realFrom links (place ++ [name]) pending
    | .descend place => realFrom links place pending
    | .follow target =>
      match links with
      | 0 => realFrom 0 (place ++ [name]) pending
      | links + 1 => realFrom links (linkStart place target) (target.parts ++ pending)
termination_by pending => (links, pending.length)

/-- The path from the root without links. -/
def realPath (p : Path) : Path := ⟨.slash, disk.realFrom linkLimit (disk.start p) p.parts⟩

/-- The working directory as a path. -/
def currentPath : Path := ⟨.slash, disk.workingDirectory⟩

/-- A path relative to the working directory when it is below it. -/
def shorten (p : Path) : Path := (p.relativeTo? disk.currentPath).getD p

end Disk

end Disposal
