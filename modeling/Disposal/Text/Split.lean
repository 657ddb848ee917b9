/-!
# Cutting texts

* `Text.splitAt` cuts a text at every character of a kind, `Text.splitLines` at every line feed.
-/

namespace Disposal.Text

/-- The parts of a text between the characters that satisfy `p`, which are left out.  There is one
part more than there are such characters. -/
def splitAt (p : Char → Bool) : List Char → List (List Char)
  | [] => [[]]
  | c :: cs =>
    if p c then [] :: splitAt p cs
    else match splitAt p cs with
      | [] => [[c]]
      | part :: parts => (c :: part) :: parts

/-- The lines of a text; a final line feed gives one more, empty line. -/
def splitLines (s : List Char) : List (List Char) := splitAt (· = '\n') s

theorem splitAt_ne_nil (p : Char → Bool) (s : List Char) : splitAt p s ≠ [] := by
  cases s with
  | nil => simp [splitAt]
  | cons c s =>
    rw [splitAt]
    split
    · simp
    · split <;> simp

theorem splitAt_eq_singleton {p : Char → Bool} {s : List Char} (h : ∀ c ∈ s, p c = false) :
    splitAt p s = [s] := by
  induction s with
  | nil => rfl
  | cons c s ih =>
    rw [List.forall_mem_cons] at h
    rw [splitAt, h.1, ih h.2]
    rfl

/-- A cut separates the parts before it from those behind it. -/
theorem splitAt_append_cons {p : Char → Bool} {c : Char} (hc : p c = true) (s t : List Char) :
    splitAt p (s ++ c :: t) = splitAt p s ++ splitAt p t := by
  induction s with
  | nil =>
    have hcut : splitAt p (c :: t) = [] :: splitAt p t := if_pos hc
    exact hcut
  | cons d s ih =>
    rw [List.cons_append, splitAt, splitAt, ih]
    split
    · rfl
    · cases hs : splitAt p s with
      | nil => exact absurd hs (splitAt_ne_nil p s)
      | cons part parts => rfl

end Disposal.Text
