import Disposal.Symbol

/-!
# Type tables

A type table holds the known types by their qualified names.  The interfaces of a type are all
interfaces that its base names lead to, through known types of any kind; base lists may form
cycles and may name unknown types.

* `TypeTable.get?` finds a type;
* `TypeTable.reached` visits everything that some names lead to, each type once;
* `TypeTable.interfaces` is the full set of interfaces of a type.
-/

namespace Disposal

/-- Known types by qualified name; the first entry of a name counts. -/
abbrev TypeTable := List (String × TypeSymbol)

namespace TypeTable

/-- The type with a given name. -/
def get? (table : TypeTable) (name : String) : Option TypeSymbol := table.lookup name

/-- Whether a name is known. -/
def known (table : TypeTable) (name : String) : Bool := (table.get? name).isSome

/-- The table without a name. -/
def without (table : TypeTable) (name : String) : TypeTable :=
  table.filter fun entry => entry.1 != name

/-- The first of the pending names that is in the table, its type, and the names behind it. -/
def nextKnown (table : TypeTable) : List String → Option (String × TypeSymbol × List String)
  | [] => none
  | name :: pending =>
    match table.get? name with
    | some t => some (name, t, pending)
    | none => nextKnown table pending

/-- The types that the pending names lead to.  A type leaves the table when it is visited, so
`fuel` is the number of types that can still be visited. -/
def reachedFrom : (fuel : Nat) → TypeTable → List String → List TypeSymbol
  | 0, _, _ => []
  | fuel + 1, table, pending =>
    match nextKnown table pending with
    | none => []
    | some (name, t, rest) =>
      t :: reachedFrom fuel (table.without name) (t.baseNames ++ rest)

/-- Every type that the given names lead to, each once. -/
def reached (table : TypeTable) (names : List String) : List TypeSymbol :=
  reachedFrom table.length table names

/-- Every interface that the base names of a type lead to, the type itself apart. -/
def interfaces (table : TypeTable) (t : TypeSymbol) : List TypeSymbol :=
  ((table.without t.qualifiedName).reached t.baseNames).filter fun base =>
    base.kind == .interfaceType

end TypeTable

end Disposal
