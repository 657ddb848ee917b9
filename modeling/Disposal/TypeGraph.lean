import Disposal.Provider
import Disposal.TypeTable

/-!
# Type graphs built by hand

A type graph is filled step by step: types and members are added and nodes are bound to types.
Later types replace earlier ones of the same name, members only accumulate, and a bound node
follows its type through replacements.  Anything that can be compared may serve as a node.
-/

namespace Disposal

/-- A type graph, with names for nodes unless said otherwise; all three parts list the newest
entry first. -/
structure TypeGraph (ν : Type := String) where
  types : TypeTable := []
  /-- Members with the qualified names of their types. -/
  memberLog : List (String × MemberSymbol) := []
  /-- Nodes bound to qualified names of types. -/
  bindings : List (ν × String) := []
  deriving Repr, Inhabited

namespace TypeGraph

variable {ν : Type}

/-- Add one member to a type. -/
def addMember (g : TypeGraph ν) (t : TypeSymbol) (m : MemberSymbol) : TypeGraph ν :=
  { g with memberLog := (t.qualifiedName, m) :: g.memberLog }

/-- Add a type, with further members. -/
def addType (g : TypeGraph ν) (t : TypeSymbol) (members : List MemberSymbol := []) : TypeGraph ν :=
  members.foldl (fun g m => g.addMember t m)
    { g with types := (t.qualifiedName, t) :: g.types }

/-- Bind a node to a type. -/
def bindNode (g : TypeGraph ν) (node : ν) (t : TypeSymbol) : TypeGraph ν :=
  { g with bindings := (node, t.qualifiedName) :: g.bindings }

/-- The members added for a name, oldest first. -/
def membersOf (g : TypeGraph ν) (name : String) : List MemberSymbol :=
  (g.memberLog.filter fun entry => entry.1 == name).reverse.map Prod.snd

/-- The answers of a type graph. -/
def provider [BEq ν] (g : TypeGraph ν) : Provider ν where
  declaration? node := (g.bindings.lookup node).bind g.types.get?
  typeNamed? := g.types.get?
  members t := g.membersOf t.qualifiedName
  interfaces := g.types.interfaces

end TypeGraph

end Disposal
