import Disposal.Field

/-!
# Declared accessibility

The access keywords written in front of a type declaration, read from its modifiers.
-/

namespace Disposal

/-- Declared accessibility of a type. -/
inductive Accessibility where
  | publicAccess
  | internalAccess
  | protectedAccess
  | privateAccess
  | protectedInternal
  | privateProtected
  | unspecified
  deriving DecidableEq, Repr, Inhabited

namespace Accessibility

/-- The keywords as they are written, empty if there are none. -/
def text : Accessibility → String
  | .publicAccess => "public"
  | .internalAccess => "internal"
  | .protectedAccess => "protected"
  | .privateAccess => "private"
  | .protectedInternal => "protected internal"
  | .privateProtected => "private protected"
  | .unspecified => ""

/-- Every accessibility. -/
def all : List Accessibility :=
  [.publicAccess, .internalAccess, .protectedAccess, .privateAccess, .protectedInternal,
    .privateProtected, .unspecified]

/-- The accessibility with a given written form. -/
def ofText? (s : String) : Option Accessibility := all.find? fun a => a.text = s

/-- The accessibility that a single keyword stands for. -/
def ofKeyword? : String → Option Accessibility
  | "public" => some .publicAccess
  | "internal" => some .internalAccess
  | "protected" => some .protectedAccess
  | "private" => some .privateAccess
  | _ => none

/-- The accessibility among the modifiers of a declaration.  `protected` with `internal` and
`private` with `protected` are read together, in any order; otherwise the first access keyword
decides. -/
def ofModifiers (modifiers : List String) : Accessibility :=
  let access := modifiers.filterMap ofKeyword?
  let pair (a b : Accessibility) : Bool :=
    access.contains a && access.contains b && access.all fun x => x == a || x == b
  if pair .protectedAccess .internalAccess then .protectedInternal
  else if pair .privateAccess .protectedAccess then .privateProtected
  else access.headD .unspecified

/-- The first of two that is written explicitly. -/
def orElse (a b : Accessibility) : Accessibility := if a = .unspecified then b else a

/-- Read an accessibility by its written form. -/
def ofValue : Value → Checked Accessibility
  | .text s => match ofText? s with
    | some a => .value a
    | none => .fault .unknownName
  | _ => .fault .unknownName

end Accessibility

end Disposal
