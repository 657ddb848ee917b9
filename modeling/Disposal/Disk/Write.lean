import Disposal.Disk
import Disposal.Log

/-!
# Writing to disks

Making directories and writing files.  Writing goes through links; making a directory that is
there already is no error.
-/

namespace Disposal

namespace Directory

/-- Put an entry under a name: in the place of the old one, or behind all others. -/
def put (name : String) (e : Entry) : Directory → Directory
  | [] => [(name, e)]
  | (n, old) :: es => if n = name then (n, e) :: es else (n, old) :: put name e es

/-- Put an entry under a name in the directory at some components below. -/
def putAt : List String → String → Entry → Directory → Directory
  | [], name, e, es => put name e es
  | d :: ds, name, e, es => es.map fun
    | (n, .directory sub) => if n = d then (n, .directory (putAt ds name e sub))
      else (n, .directory sub)
    | other => other

end Directory

namespace Disk

variable (disk : Disk)

/-- The disk with an entry put under a name in a directory. -/
def put (parent : List String) (name : String) (e : Entry) : Disk :=
  { disk with root := disk.root.putAt parent name e }

/-- The place of a directory. -/
def directoryPlace (p : Path) : Except OsError.Cause (List String) :=
  match disk.resolve p with
  | .error cause => .error cause
  | .ok (.absent _ _) => .error .notFound
  | .ok (.present place) =>
    match disk.entryAt? place with
    | some (.directory _) => .ok place
    | _ => .error .notDirectory

/-- Make one directory.  A link at its name counts as something that exists. -/
def makeOne (p : Path) : Except OsError Disk :=
  match pathFault? p, disk.directoryPlace p.parent with
  | some cause, _ => .error ⟨cause, p⟩
  | none, .error cause => .error ⟨cause, p⟩
  | none, .ok place =>
    match p.parts.getLast? with
    | none => .error ⟨.alreadyExists, p⟩
    | some name =>
      match disk.step place name with
      | .free name => .ok (disk.put place name (.directory []))
      | .fail cause => .error ⟨cause, p⟩
      | _ => .error ⟨.alreadyExists, p⟩

/-- Make one directory unless it is there. -/
def makeUnlessThere (p : Path) : Except OsError Disk :=
  match disk.makeOne p with
  | .ok disk => .ok disk
  | .error e => if e.cause ≠ .notFound ∧ disk.isDirectory p then .ok disk else .error e

/-- Make a directory and those around it, from the last `depth` components of its path. -/
def makeAll : (depth : Nat) → Disk → Path → Except OsError Disk
  | 0, disk, p => disk.makeUnlessThere p
  | depth + 1, disk, p =>
    match disk.makeOne p with
    | .ok disk => .ok disk
    | .error e =>
      if e.cause = .notFound then
        match makeAll depth disk p.parent with
        | .ok disk => disk.makeUnlessThere p
        | .error e => .error e
      else if disk.isDirectory p then .ok disk
      else .error e

/-- Make a directory and those around it, unless they are there. -/
def makeDirectory (p : Path) : Except OsError Disk := makeAll p.parts.length disk p

/-- Write a file. -/
def write (p : Path) (bytes : Text.Bytes) : Except OsError Disk :=
  match disk.resolve p with
  | .error cause => .error ⟨cause, p⟩
  | .ok (.absent parent name) => .ok (disk.put parent name (.file bytes))
  | .ok (.present place) =>
    match disk.entryAt? place, place.getLast? with
    | some (.file _), some name => .ok (disk.put place.dropLast name (.file bytes))
    | _, _ => .error ⟨.isDirectory, p⟩

/-- Write generated sources below `root` up to the first failure: the disk then, the paths
written and the failure. -/
def writeAll (root : Path) : Disk → List (String × String) → Disk × List Path × Option OsError
  | disk, [] => (disk, [], none)
  | disk, (key, text) :: rest =>
    match disk.makeDirectory root with
    | .error e => (disk, [], some e)
    | .ok disk =>
      let path := root.join (.ofString key)
      match disk.write path (Text.encode text) with
      | .error e => (disk, [], some e)
      | .ok disk =>
        let (disk, written, failure) := writeAll root disk rest
        (disk, path :: written, failure)

/-- What is said about written files. -/
def writeLog (written : List Path) : List Log.Record :=
  written.map fun p => ⟨.info, .output, "Wrote " ++ p.toString⟩

/-! ### All files -/

/-- The files of a directory with their paths below `place`, directories first as listed. -/
def filesIn (place : Path) : Directory → List (Path × Text.Bytes)
  | [] => []
  | (name, .file bytes) :: es => (place.child name, bytes) :: filesIn place es
  | (name, .directory sub) :: es => filesIn (place.child name) sub ++ filesIn place es
  | (_, .link _) :: es => filesIn place es

/-- All files, by their paths from the root. -/
def files : List (Path × Text.Bytes) := filesIn ⟨.slash, []⟩ disk.root

/-- The files below the working directory, by their relative paths in order. -/
def localFiles : List (Path × Text.Bytes) :=
  let es := match disk.entryAt? disk.workingDirectory with
    | some (.directory es) => es
    | _ => []
  (filesIn ⟨.relative, []⟩ es).mergeSort fun a b => a.1.le b.1

/-- The files below the working directory that are new or changed since `before`. -/
def changedSince (before : Disk) : List (Path × Text.Bytes) :=
  let old := before.localFiles
  disk.localFiles.filter fun (p, bytes) => old.lookup p != some bytes

end Disk

end Disposal
