import Disposal.Text.Split

/-!
# File paths

A path is a root (none, `/` or `//`) and a list of components.  Reading a path collapses
repeated slashes and drops `.` components and a trailing slash, but keeps `..`.  All
operations here are lexical: nothing is looked up on a disk.

* `Path.ofString` reads a path, `Path.toString` writes it;
* `Path.name`, `Path.suffix`, `Path.parent`, `Path.join`, `Path.relativeTo?`;
* `Path.le` orders paths component by component.
-/

namespace Disposal

/-- Where a path starts. -/
inductive Path.Root where
  | relative
  | slash
  | doubleSlash
  deriving DecidableEq, Repr, Inhabited

/-- A file path. -/
structure Path where
  /-- Where the path starts. -/
  root : Path.Root
  /-- The components, outermost first. -/
  parts : List String
  deriving DecidableEq, Repr, Inhabited

namespace Path

/-- The written form of a root. -/
def Root.toString : Root → String
  | .relative => ""
  | .slash => "/"
  | .doubleSlash => "//"

/-- The root that a number of leading slashes stands for. -/
def Root.ofSlashes : Nat → Root
  | 0 => .relative
  | 2 => .doubleSlash
  | _ => .slash

/-- The components of a written path: those that are neither empty nor `.`. -/
def components (s : List Char) : List String :=
  ((Text.splitAt (· = '/') s).map String.ofList).filter fun part => part ≠ "" && part ≠ "."

/-- Read a path. -/
def ofString (s : String) : Path where
  root := .ofSlashes (s.toList.takeWhile (· = '/')).length
  parts := components s.toList

/-- The written form of a path. -/
def toString (p : Path) : String :=
  match p.root, p.parts with
  | .relative, [] => "."
  | root, parts => root.toString ++ "/".intercalate parts

/-- Whether a path starts at a root. -/
def isAbsolute (p : Path) : Bool := p.root != .relative

/-- The last component, empty if there is none. -/
def name (p : Path) : String := p.parts.getLastD ""

/-- The path without its last component. -/
def parent (p : Path) : Path := { p with parts := p.parts.dropLast }

/-- A path inside another; an absolute path stands for itself. -/
def join (p q : Path) : Path :=
  if q.isAbsolute then q else { p with parts := p.parts ++ q.parts }

/-- The component `name` of the directory `p`. -/
def child (p : Path) (name : String) : Path := { p with parts := p.parts ++ [name] }

/-- The part of a file name from its last dot on; empty if that dot comes first or last. -/
def suffixOf (name : List Char) : List Char :=
  let tail := (name.reverse.takeWhile (· ≠ '.')).reverse
  if tail.length + 1 < name.length ∧ tail ≠ [] then '.' :: tail else []

/-- The suffix of the last component. -/
def suffix (p : Path) : String := String.ofList (suffixOf p.name.toList)

/-- The way from the directory `base` down to `p`, when `p` is `base` or below it. -/
def relativeTo? (p base : Path) : Option Path :=
  if p.root = base.root then
    (base.parts.isPrefixOf? p.parts).map fun parts => ⟨.relative, parts⟩
  else none

/-- The order of paths: component by component. -/
def le (p q : Path) : Bool := !decide (q.parts < p.parts)

end Path

end Disposal
