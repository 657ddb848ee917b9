import Disposal.SourceFile

/-!
# Candidates

A cheap look at the syntax decides which class declarations are worth resolving.  The loose
filter takes every class with a base list, the strict one only those whose base list names the
disposal interface.

* `Filter.accepts` is the test, `Candidate` a declaration that passed it;
* `Candidate.collect` lists the candidates of some files.
-/

namespace Disposal

/-- Which class declarations are candidates.  These are the filters of the library itself; a host
that brings its own filter is outside of this type. -/
inductive Filter where
  | loose
  | strict (interfaceName : String)
  deriving DecidableEq, Repr, Inhabited

namespace Filter

/-- The identifier of a filter. -/
def id : Filter → String
  | .loose => "loose"
  | .strict _ => "strict"

/-- What a filter looks for. -/
def title : Filter → String
  | .loose => "Any base list"
  | .strict _ => "Base list names the disposal interface"

/-- The part of a name behind its last dot. -/
def lastSegment (name : String) : String :=
  String.ofList (name.toList.reverse.takeWhile (· ≠ '.')).reverse

/-- The base entries that name an interface. -/
def namesOf (interfaceName : String) : List String :=
  [lastSegment interfaceName, interfaceName, "global::" ++ interfaceName]

/-- Whether a node is a candidate. -/
def accepts (filter : Filter) (source : Text.Bytes) (n : Node) : Bool :=
  n.isClass && match filter with
    | .loose => !(n.baseEntries source).isEmpty
    | .strict interfaceName => (n.baseEntries source).any (namesOf interfaceName).contains

end Filter

/-- A class declaration to be resolved. -/
structure Candidate where
  /-- Position of the file among the analysed files. -/
  file : Nat
  node : Node
  deriving Repr, Inhabited

namespace Candidate

/-- The candidates of one file, in document order. -/
def ofFile (filter : Filter) (f : SourceFile) (index : Nat) : List Candidate :=
  (f.root.classDeclarations.filter (filter.accepts f.source)).map fun node => ⟨index, node⟩

/-- The candidates of some files, file by file in document order. -/
def collect (filter : Filter) (files : List SourceFile) : List Candidate :=
  (files.zipIdx.map fun (f, index) => ofFile filter f index).flatten

/-- What is said when candidates were collected. -/
def collectLog (filter : Filter) (candidates : List Candidate) : List Log.Record :=
  [⟨.info, .generator, "Candidate filter " ++ Text.quote filter.id ++ " accepted " ++
    Nat.repr candidates.length ++ " class declaration(s)"⟩]

/-- The nodes of a file that a filter accepts, and what is said about them. -/
def filterNodes (filter : Filter) (source : Text.Bytes) (nodes : List Node) :
    List Node × List Log.Record :=
  let accepted := nodes.filter (filter.accepts source)
  (accepted, [⟨.debug, .collector, "Filter " ++ filter.id ++ " accepted " ++
    Nat.repr accepted.length ++ " candidate(s)"⟩])

end Candidate

end Disposal
