import Disposal.Symbol

/-!
# Scopes

A written name is looked up from the place where it stands: in the types around it from the
inside out, in the namespace and the namespaces around that, below the imported namespaces in
the order of their directives, and last as it is.
-/

namespace Disposal

/-- A place where names are looked up. -/
structure Scope where
  namespaceName : String := ""
  /-- Imported namespaces, in the order of the directives. -/
  usings : List String := []
  /-- Qualified names of the types around the place, innermost first. -/
  containers : List String := []
  deriving DecidableEq, Repr, Inhabited

namespace Scope

/-- The parts of a text that end before a dot, shortest first, and the text itself. -/
def dottedPrefixes : List Char → List (List Char)
  | [] => [[]]
  | c :: cs =>
    let longer := (dottedPrefixes cs).map (c :: ·)
    if c = '.' then [] :: longer else longer

/-- A namespace and the namespaces around it, innermost first. -/
def enclosing (namespaceName : String) : List String :=
  if namespaceName = "" then []
  else ((dottedPrefixes namespaceName.toList).map String.ofList).reverse

/-- The qualified names that `name` may stand for, in the order they are tried. -/
def candidates (s : Scope) (globalUsings : List String) (name : String) : List String :=
  ((s.containers ++ enclosing s.namespaceName ++ s.usings ++ globalUsings).map
    fun outer => outer ++ "." ++ name) ++ [name]

/-- The name itself is tried last. -/
theorem mem_candidates_self (s : Scope) (globalUsings : List String) (name : String) :
    name ∈ s.candidates globalUsings name := by
  simp [candidates]

/-- The first known name that `name` may stand for. -/
def lookup? (s : Scope) (globalUsings : List String) (known : String → Bool) (name : String) :
    Option String :=
  (s.candidates globalUsings name).find? known

end Scope

end Disposal
