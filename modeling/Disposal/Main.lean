import Disposal.Arguments
import Disposal.Console
import Disposal.Reader

/-!
# The program

The outermost layer of the command line.  It copies what a run can look at into a `Disk`, runs
the command there, writes the files that are new, and shows the lines and the log.
-/

namespace Disposal

/-- The kind of what stands at a written path, links not followed; `none` if nothing does. -/
def pathType? (path : String) : IO (Option IO.FS.FileType) := do
  try
    let here ← IO.currentDir
    return some (← (here / path).symlinkMetadata).type
  catch _ => return none

/-- The bytes of a file; a file that is no source is not read. -/
def fileEntry (place : Path) : IO Entry := do
  if Search.isSource place then
    return .file (← IO.FS.readBinFile place.toString).toList
  return .file []

/-- What stands at a place, with everything below it.  What cannot be looked at is copied as an
empty file, since a listing ends there. -/
partial def treeAt (place : Path) : IO (Option Entry) := do
  match ← pathType? place.toString with
  | some .dir =>
    let listing ← ((← IO.currentDir) / place.toString).readDir
    let mut entries : Directory := []
    for e in listing do
      match ← treeAt (place.child e.fileName) with
      | some entry => entries := (e.fileName, entry) :: entries
      | none =>
        if (← pathType? (place.child e.fileName).toString).isNone then
          entries := (e.fileName, .file []) :: entries
    return some (.directory entries.reverse)
  | some .symlink => return some (.link (.ofString (← IO.FS.realPath place.toString).toString))
  | some .file => return some (← fileEntry place)
  | _ => return none

/-- Put an entry at a place of a disk; at the root only a directory can stand. -/
def Disk.putAt (disk : Disk) (place : List String) (e : Entry) : Disk :=
  match place.getLast?, e with
  | some name, e => disk.put place.dropLast name e
  | none, .directory es => { disk with root := es }
  | none, _ => disk

/-- Put an entry at a place of a disk unless something is there. -/
def Disk.putNew (disk : Disk) (place : List String) (e : Entry) : Disk :=
  if (disk.entryAt? place).isSome then disk else disk.putAt place e

/-- A disk on which a place and all those around it are directories. -/
def Disk.putDirectories (disk : Disk) (place : List String) : Disk :=
  (List.range place.length).foldl
    (fun disk n => disk.putNew (place.take (n + 1)) (.directory [])) disk

/-- Copy what stands on the way along some components, without what is in the directories. -/
def copyWay (disk : Disk) (place : List String) : List String → IO Disk
  | [] => return disk
  | name :: pending => do
    if name = ".." then return ← copyWay disk place.dropLast pending
    let next : Path := ⟨.slash, place ++ [name]⟩
    match ← pathType? next.toString with
    | some .symlink =>
      let real := Path.ofString (← IO.FS.realPath next.toString).toString
      let disk := disk.putNew next.parts (.link real)
      if (← pathType? real.toString) == some .dir then
        copyWay (disk.putDirectories real.parts) real.parts pending
      else return disk.putDirectories real.parent.parts
    | some .dir => copyWay (disk.putDirectories next.parts) next.parts pending
    | some .file => return disk.putNew next.parts (← fileEntry next)
    | _ => return disk

/-- The disk that a run with some arguments looks at: the ways to its target and to the directory
it writes to, and all that stands at the target. -/
def diskFor (a : Arguments) : IO Disk := do
  let here := (Path.ofString (← IO.currentDir).toString).parts
  let way (p : Path) : List String := if p.isAbsolute then p.parts else here ++ p.parts
  let mut disk : Disk := { workingDirectory := here }
  disk := disk.putDirectories here
  for target in a.targets do
    let p := Path.ofString target
    disk ← copyWay disk [] (way p)
    let real := disk.realPath p
    if let some tree ← treeAt real then disk := disk.putAt real.parts tree
  for out in a.out.toList do
    disk ← copyWay disk [] (way (.ofString out))
  return disk.putDirectories here

end Disposal

open Disposal in
/-- Run the program. -/
def main (args : List String) : IO UInt32 := do
  let disk ← diskFor ((Arguments.read? args).getD {})
  match Arguments.request disk args with
  | .invalid =>
    IO.eprintln Arguments.usage
    return 2
  | .help =>
    IO.println Arguments.usage
    return 0
  | .generate o =>
    let run := Command.run disk Reader.parse Console.display o
    let old := disk.files
    for (path, bytes) in run.disk.files do
      if old.lookup path != some bytes then
        IO.FS.createDirAll path.parent.toString
        IO.FS.writeBinFile path.toString ⟨bytes.toArray⟩
    for line in Command.shownLog o.verbose run.log do
      IO.eprintln line
    match run.outcome with
    | .rejected bad => IO.eprintln bad.message
    | .failed e => IO.eprintln e.message
    | .complete _ lines => for line in lines do IO.println line
    return run.outcome.exitCode.toUInt32
