import Disposal.Symbol

/-!
# Semantic providers

What the resolver asks about the analysed program.  A provider answers for its own kind of
declarations: nodes of parsed files, or whatever stands for them.
-/

namespace Disposal

/-- Answers about types, for declarations of type `ν`. -/
structure Provider (ν : Type) where
  /-- The type that a declaration declares. -/
  declaration? : ν → Option TypeSymbol
  /-- The type with a qualified name. -/
  typeNamed? : String → Option TypeSymbol
  /-- The members declared directly in a type, in the order of their declarations. -/
  members : TypeSymbol → List MemberSymbol
  /-- Every interface that a type implements, directly or through its bases. -/
  interfaces : TypeSymbol → List TypeSymbol

namespace Provider

variable {ν : Type} (P : Provider ν)

/-- Whether a type implements an interface. -/
def implements (t interface : TypeSymbol) : Bool :=
  (P.interfaces t).any fun i => decide (i.Same interface)

/-- Whether a type is an interface or implements it. -/
def isOrImplements (t interface : TypeSymbol) : Bool :=
  decide (t.Same interface) || P.implements t interface

end Provider

end Disposal
