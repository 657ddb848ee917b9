import Disposal.Text.Blank

/-!
# Names of written types

A type is looked up by the name it is written with, less what does not select a declaration:
blanks, a leading `global::`, trailing `?` and type arguments.  Predefined types, arrays,
pointers and tuples have no such name.

* `TypeName.eraseInnermost` removes every innermost pair of angle brackets at once;
* `TypeName.eraseArguments` repeats that until no bracket is left;
* `TypeName.normalize?` is the name that a written type is looked up by.
-/

namespace Disposal.TypeName

/-- Types that the language itself names. -/
def predefined : List String :=
  ["void", "object", "string", "dynamic", "bool", "char", "byte", "sbyte", "short", "ushort",
    "int", "uint", "long", "ulong", "nint", "nuint", "float", "double", "decimal", "var"]

/-- Drop a leading `global::`. -/
def dropGlobal (s : List Char) : List Char := ("global::".toList.isPrefixOf? s).getD s

/-- The text from an open bracket on, if one is open.  The characters behind it are in reverse
order. -/
def heldText : Option (List Char) → List Char
  | none => []
  | some held => '<' :: held.reverse

/-- Remove the innermost bracket pairs, given the text held back since the last open bracket. -/
def eraseFrom : Option (List Char) → List Char → List Char
  | held, [] => heldText held
  | held, '<' :: s => heldText held ++ eraseFrom (some []) s
  | none, c :: s => c :: eraseFrom none s
  | some held, c :: s => if c = '>' then eraseFrom none s else eraseFrom (some (c :: held)) s

/-- Remove every innermost pair of angle brackets with its contents. -/
def eraseInnermost (s : List Char) : List Char := eraseFrom none s

theorem eraseFrom_sublist (held : Option (List Char)) (s : List Char) :
    (eraseFrom held s).Sublist (heldText held ++ s) := by
  fun_induction eraseFrom held s with
  | case1 held => simp
  | case2 held s ih =>
    simpa [heldText] using ih
  | case3 c s hc ih => simpa [heldText] using ih
  | case4 held s _ ih =>
    exact ih.trans (List.sublist_append_of_sublist_right (List.sublist_cons_self _ _))
  | case5 held c s _ _ ih => simpa [heldText] using ih

theorem eraseInnermost_sublist (s : List Char) : (eraseInnermost s).Sublist s := by
  simpa [eraseInnermost, heldText] using eraseFrom_sublist none s

theorem length_eraseInnermost_lt {s : List Char} (h : eraseInnermost s ≠ s) :
    (eraseInnermost s).length < s.length :=
  Nat.lt_of_le_of_ne (eraseInnermost_sublist s).length_le
    fun he => h ((eraseInnermost_sublist s).eq_of_length he)

/-- Remove all type arguments; nothing if the brackets do not match. -/
def eraseArguments (s : List Char) : Option (List Char) :=
  if '<' ∈ s then
    if _h : eraseInnermost s = s then none else eraseArguments (eraseInnermost s)
  else some s
termination_by s.length
decreasing_by exact length_eraseInnermost_lt _h

/-- A written type without blanks, `global::` and trailing `?`. -/
def bare (s : List Char) : List Char :=
  Text.trimEnd (· = '?') (dropGlobal (Text.compactChars s))

/-- Whether a bare type is an array, a pointer or a tuple, or nothing at all. -/
def isComposite (s : List Char) : Bool :=
  s.isEmpty || s.head? == some '(' || s.contains '[' || s.contains '*'

/-- The name that a written type is looked up by. -/
def normalize? (written : String) : Option String :=
  let s := bare written.toList
  if isComposite s then none
  else match eraseArguments s with
    | none => none
    | some name =>
      let name := String.ofList name
      if name ∈ predefined then none else some name

end Disposal.TypeName
