import Disposal.TypeName
import Disposal.Text.Blank

/-!
# Using directives

A using directive imports a namespace, for its file or for all files.  Aliases and static
usings import nothing.
-/

namespace Disposal

/-- What a using directive does. -/
structure Using where
  /-- The namespace it imports. -/
  target : Option String
  /-- Whether it holds in all files. -/
  isGlobal : Bool
  deriving DecidableEq, Repr, Inhabited

namespace Using

/-- The part of a directive behind a word and the blanks after it. -/
def afterWord? (word : String) (s : List Char) : Option (List Char) :=
  (word.toList.isPrefixOf? s).map Text.trimBlank

/-- A directive without its end. -/
def body (s : List Char) : List Char :=
  Text.trimBlank (Text.trimEnd (· = ';') (Text.trimBlank s))

/-- The namespace imported by what stands behind `using`. -/
def targetOf (s : List Char) : Option String :=
  if "static ".toList.isPrefixOf s || s.contains '=' then none
  else
    let target := TypeName.dropGlobal (Text.compactChars s)
    if target.isEmpty then none else some (String.ofList target)

/-- Read a using directive. -/
def ofText (written : String) : Using :=
  let s := body written.toList
  let (rest, isGlobal) := match afterWord? "global " s with
    | some rest => (rest, true)
    | none => (s, false)
  ⟨(afterWord? "using" rest).bind targetOf, isGlobal⟩

end Using

end Disposal
