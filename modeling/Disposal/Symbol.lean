import Disposal.Accessibility
import Disposal.Location

/-!
# Symbols

Types and members as the analysis sees them: merged over all their declarations, with the
written names resolved.

* `TypeSymbol` and `MemberSymbol` are the symbols, `TypeSymbol.qualifiedName` is the name a type
  is known by;
* `TypeSymbol.Same` compares types by everything but their location;
* `MemberSymbol.isParameterlessVoid` is the shape of `Dispose()` and of the cleanup hooks.
-/

namespace Disposal

/-- The kinds of named types. -/
inductive TypeKind where
  | classType
  | structType
  | interfaceType
  | recordType
  | enumType
  deriving DecidableEq, Repr, Inhabited

namespace TypeKind

/-- The keyword of a kind. -/
def text : TypeKind → String
  | .classType => "class"
  | .structType => "struct"
  | .interfaceType => "interface"
  | .recordType => "record"
  | .enumType => "enum"

/-- Every kind. -/
def all : List TypeKind := [.classType, .structType, .interfaceType, .recordType, .enumType]

/-- The kind with a given keyword. -/
def ofText? (s : String) : Option TypeKind := all.find? fun k => k.text = s

end TypeKind

/-- The kinds of members. -/
inductive MemberKind where
  | field
  | property
  | method
  | event
  | other
  deriving DecidableEq, Repr, Inhabited

namespace MemberKind

/-- The name of a kind. -/
def text : MemberKind → String
  | .field => "field"
  | .property => "property"
  | .method => "method"
  | .event => "event"
  | .other => "other"

/-- Every kind. -/
def all : List MemberKind := [.field, .property, .method, .event, .other]

/-- The kind with a given name. -/
def ofText? (s : String) : Option MemberKind := all.find? fun k => k.text = s

end MemberKind

/-- A name in a namespace; the empty namespace adds nothing. -/
def joinName (outer name : String) : String := if outer = "" then name else outer ++ "." ++ name

/-- A named type. -/
structure TypeSymbol where
  name : String
  namespaceName : String := ""
  kind : TypeKind := .classType
  accessibility : Accessibility := .unspecified
  /-- Qualified names of the entries of the base list; an entry that names no known type is
  kept as written. -/
  baseNames : List String := []
  isPartial : Bool := false
  /-- Qualified name of the type it is nested in. -/
  containingType : Option String := none
  location : Option Location := none
  deriving DecidableEq, Repr, Inhabited

namespace TypeSymbol

/-- The name a type is known by: below the type it is nested in, else below its namespace. -/
def qualifiedName (t : TypeSymbol) : String :=
  match t.containingType with
  | none => joinName t.namespaceName t.name
  | some outer => if outer = "" then joinName t.namespaceName t.name else outer ++ "." ++ t.name

/-- The symbol without its location. -/
def unlocated (t : TypeSymbol) : TypeSymbol := { t with location := none }

/-- Two symbols are the same type if they agree in everything but the location. -/
def Same (s t : TypeSymbol) : Prop := s.unlocated = t.unlocated

instance (s t : TypeSymbol) : Decidable (s.Same t) :=
  inferInstanceAs (Decidable (s.unlocated = t.unlocated))

end TypeSymbol

/-- A member declared directly in a type. -/
structure MemberSymbol where
  name : String
  kind : MemberKind
  /-- Number of parameters; of a symbol given from outside it may be any number. -/
  parameterCount : Int := 0
  /-- Number of type parameters, likewise. -/
  typeParameterCount : Int := 0
  returnsVoid : Bool := false
  /-- Qualified name of the type of a field or property, when it is known. -/
  declaredType : Option String := none
  isStatic : Bool := false
  location : Option Location := none
  deriving DecidableEq, Repr, Inhabited

namespace MemberSymbol

/-- Whether a member is a field or property of each object. -/
def isInstanceData (m : MemberSymbol) : Bool :=
  (m.kind == .field || m.kind == .property) && !m.isStatic

/-- Whether a member is the method `void name()` without type parameters. -/
def isParameterlessVoid (name : String) (m : MemberSymbol) : Bool :=
  m.kind == .method && m.name == name && m.parameterCount == 0 && m.typeParameterCount == 0 &&
    m.returnsVoid

end MemberSymbol

end Disposal
