/-!
# Blank characters

Written names are compared without their blanks, and snippets are trimmed.  The blank
characters are those of the Unicode property `White_Space` together with the four
information separators `U+001C` to `U+001F`.

* `Text.isBlank` decides whether a character is blank;
* `Text.compact` removes every blank of a text;
* `Text.trim` removes the blanks at both ends.
-/

namespace Disposal.Text

/-- Blank characters: white space and the information separators. -/
def isBlank (c : Char) : Bool :=
  let n := c.toNat
  (9 ≤ n && n ≤ 13) || (28 ≤ n && n ≤ 32) || n == 0x85 || n == 0xA0 || n == 0x1680 ||
    (0x2000 ≤ n && n ≤ 0x200A) || n == 0x2028 || n == 0x2029 || n == 0x202F || n == 0x205F ||
    n == 0x3000

/-- Drop the leading characters that satisfy `p`. -/
def trimStart (p : Char → Bool) (s : List Char) : List Char := s.dropWhile p

/-- Drop the trailing characters that satisfy `p`. -/
def trimEnd (p : Char → Bool) (s : List Char) : List Char := (s.reverse.dropWhile p).reverse

/-- Drop the blanks at both ends. -/
def trimBlank (s : List Char) : List Char := trimEnd isBlank (trimStart isBlank s)

/-- Remove every blank. -/
def compactChars (s : List Char) : List Char := s.filter fun c => !isBlank c

/-- A text without its blanks. -/
def compact (s : String) : String := String.ofList (compactChars s.toList)

/-- A text without the blanks at its ends. -/
def trim (s : String) : String := String.ofList (trimBlank s.toList)

/-- The characters before the first line feed. -/
def firstLine (s : String) : String := String.ofList (s.toList.takeWhile (· ≠ '\n'))

@[simp] theorem compactChars_nil : compactChars [] = [] := rfl

@[simp] theorem compactChars_append (s t : List Char) :
    compactChars (s ++ t) = compactChars s ++ compactChars t := by
  simp [compactChars]

theorem not_isBlank_of_mem_compactChars {s : List Char} {c : Char} (h : c ∈ compactChars s) :
    isBlank c = false := by
  simpa using (List.mem_filter.1 h).2

@[simp] theorem toList_compact (s : String) : (compact s).toList = compactChars s.toList := by
  simp [compact]

end Disposal.Text
