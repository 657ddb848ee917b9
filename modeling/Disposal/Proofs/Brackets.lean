import Disposal.TypeName
import Mathlib.Data.List.DropRight
import Mathlib.Dynamics.FixedPoints.Basic
import Mathlib.Tactic.SplitIfs

/-!
# Type arguments in a text

Type arguments are erased from the inside out, again and again until no angle bracket is left.
That gives the same as one reading from left to right which counts the brackets that are open and
keeps what stands outside of all of them, and the same as one which deletes each pair of brackets
when it is closed.

* `TypeName.outside` is the reading that counts, `TypeName.matchBrackets` the one that deletes;
* `TypeName.outside_eraseInnermost`: erasing the innermost pairs does not change what it gives, and
  `TypeName.outside_eq_none`: where nothing can be erased any more, a bracket is left open;
* `TypeName.eraseArguments_eq_outside` is the result for every text, and `TypeName.exists_rounds`
  says that the erasing ends;
* `TypeName.normalize?_matches_brackets`: the name that any text is looked up by.
-/

namespace Disposal.TypeName

/-- The text outside of all angle brackets, given how many are open.  A closing bracket without an
open one is an ordinary character; there is no such text if a bracket is left open. -/
def outside : Nat → List Char → Option (List Char)
  | 0, [] => some []
  | _ + 1, [] => none
  | 0, c :: s => if c = '<' then outside 1 s else (outside 0 s).map (c :: ·)
  | depth + 1, c :: s =>
    if c = '<' then outside (depth + 2) s
    else if c = '>' then outside depth s
    else outside (depth + 1) s

/-- Whether a text has no angle brackets. -/
def NoBrackets (s : List Char) : Prop := '<' ∉ s ∧ '>' ∉ s

instance (s : List Char) : Decidable (NoBrackets s) :=
  inferInstanceAs (Decidable ('<' ∉ s ∧ '>' ∉ s))

theorem outside_open (depth : Nat) (s : List Char) :
    outside depth ('<' :: s) = outside (depth + 1) s := by
  cases depth <;> simp [outside]

/-- What stands in brackets is not kept. -/
theorem outside_plain_append {s : List Char} (h : NoBrackets s) (depth : Nat) (t : List Char) :
    outside (depth + 1) (s ++ t) = outside (depth + 1) t := by
  induction s with
  | nil => rfl
  | cons c s ih =>
    obtain ⟨hopen, hclose⟩ := h
    rw [List.mem_cons, not_or] at hopen hclose
    rw [List.cons_append, outside, if_neg (Ne.symm hopen.1), if_neg (Ne.symm hclose.1),
      ih ⟨hopen.2, hclose.2⟩]

/-- Texts with the same reading at every depth can be exchanged behind any text. -/
theorem outside_append_congr {s t : List Char} (h : ∀ depth, outside depth s = outside depth t)
    (front : List Char) (depth : Nat) :
    outside depth (front ++ s) = outside depth (front ++ t) := by
  induction front generalizing depth with
  | nil => exact h depth
  | cons c front ih => cases depth <;> simp only [List.cons_append, outside, ih]

/-- What stands outside of all brackets is kept. -/
theorem outside_zero_append {s : List Char} (h : NoBrackets s) (t : List Char) :
    outside 0 (s ++ t) = (outside 0 t).map (s ++ ·) := by
  induction s with
  | nil => simp
  | cons c s ih =>
    obtain ⟨hopen, hclose⟩ := h
    rw [List.mem_cons, not_or] at hopen hclose
    rw [List.cons_append, outside, if_neg (Ne.symm hopen.1), ih ⟨hopen.2, hclose.2⟩,
      Option.map_map]
    rfl

/-! ### Pairs of brackets -/

/-- The brackets of a text come in pairs, so that nothing of it is left in an open bracket. -/
def Balanced (s : List Char) : Prop :=
  ∀ depth rest, outside (depth + 1) (s ++ rest) = outside (depth + 1) rest

theorem NoBrackets.balanced {s : List Char} (h : NoBrackets s) : Balanced s :=
  outside_plain_append h

namespace Balanced

variable {s t : List Char}

theorem nil : Balanced [] := fun _ _ => rfl

theorem append (hs : Balanced s) (ht : Balanced t) : Balanced (s ++ t) := by
  intro depth rest
  rw [List.append_assoc, hs, ht]

/-- What stands in a pair of brackets is not kept. -/
theorem outside_pair (h : Balanced s) (depth : Nat) (rest : List Char) :
    outside depth ('<' :: s ++ '>' :: rest) = outside depth rest := by
  rw [List.cons_append, outside_open, h, outside]
  simp

theorem pair (h : Balanced s) : Balanced ('<' :: s ++ ['>']) := by
  intro depth rest
  rw [List.append_assoc, List.singleton_append, h.outside_pair]

end Balanced

/-! ### Erasing the innermost pairs -/

theorem outside_eraseFrom {held : Option (List Char)} (hheld : ∀ text ∈ held, NoBrackets text)
    (s : List Char) (depth : Nat) :
    outside depth (eraseFrom held s) = outside depth (heldText held ++ s) := by
  fun_induction eraseFrom held s generalizing depth with
  | case1 held => rw [List.append_nil]
  | case2 held s ih =>
    have hempty : ∀ text ∈ some ([] : List Char), NoBrackets text := by simp [NoBrackets]
    exact outside_append_congr (fun depth => ih hempty depth) _ _
  | case3 c s _ ih => exact outside_append_congr (ih hheld) [c] depth
  | case4 text s _ ih =>
    -- a pair is closed: what was held back stands in it
    have hplain : NoBrackets text.reverse := by simpa [NoBrackets] using hheld text rfl
    rw [ih (by simp), heldText, heldText, List.nil_append, List.cons_append, outside_open,
      outside_plain_append hplain, outside]
    simp
  | case5 text c s hopen hclose ih =>
    have hplain : ∀ longer ∈ some (c :: text), NoBrackets longer := by
      have htext := hheld text rfl
      simp only [Option.mem_some_iff, forall_eq']
      simpa [NoBrackets, Ne.symm hopen, Ne.symm hclose] using htext
    rw [ih hplain]
    simp [heldText]

theorem outside_eraseInnermost (s : List Char) (depth : Nat) :
    outside depth (eraseInnermost s) = outside depth s :=
  outside_eraseFrom (by simp) s depth

/-! ### Where nothing can be erased -/

/-- Nothing is erased behind an open bracket only if no bracket is closed there. -/
theorem close_notMem_of_eraseFrom_eq {text s : List Char}
    (h : eraseFrom (some text) s = heldText (some text) ++ s) : '>' ∉ s := by
  induction s generalizing text with
  | nil => exact List.not_mem_nil
  | cons c s ih =>
    by_cases hopen : c = '<'
    · subst hopen
      rw [eraseFrom] at h
      have hrest := ih (List.append_cancel_left h)
      simpa using hrest
    · rw [eraseFrom] at h
      · split_ifs at h with hclose
        · -- the closed pair is gone
          have hlength := (eraseFrom_sublist none s).length_le
          rw [h] at hlength
          simp [heldText] at hlength
          omega
        · have hmore : eraseFrom (some (c :: text)) s = heldText (some (c :: text)) ++ s := by
            rw [h]
            simp [heldText]
          simpa [Ne.symm hclose] using ih hmore
      · exact hopen

theorem outside_succ_eq_none {s : List Char} (h : '>' ∉ s) (depth : Nat) :
    outside (depth + 1) s = none := by
  induction s generalizing depth with
  | nil => rfl
  | cons c s ih =>
    rw [List.mem_cons, not_or] at h
    rw [outside, if_neg (Ne.symm h.1), ih h.2, ih h.2, ite_self]

/-- If nothing is erased from a text with an open bracket, then this is not closed. -/
theorem outside_eq_none {s : List Char} (hmem : '<' ∈ s) (h : eraseInnermost s = s) :
    outside 0 s = none := by
  rw [eraseInnermost] at h
  induction s with
  | nil => cases hmem
  | cons c s ih =>
    by_cases hopen : c = '<'
    · subst hopen
      rw [eraseFrom] at h
      rw [outside_open, outside_succ_eq_none (close_notMem_of_eraseFrom_eq h)]
    · rw [eraseFrom] at h
      · rw [outside, if_neg hopen, ih (by simpa [Ne.symm hopen] using hmem) (List.cons.inj h).2]
        rfl
      · exact hopen

theorem outside_eq_some {s : List Char} (h : '<' ∉ s) : outside 0 s = some s := by
  induction s with
  | nil => rfl
  | cons c s ih =>
    rw [List.mem_cons, not_or] at h
    rw [outside, if_neg (Ne.symm h.1), ih h.2]
    rfl

/-- **Erasing type arguments** keeps what stands outside of all brackets. -/
theorem eraseArguments_eq_outside (s : List Char) : eraseArguments s = outside 0 s := by
  fun_induction eraseArguments s with
  | case1 s hmem hsame => exact (outside_eq_none hmem hsame).symm
  | case2 s hmem hchange ih => rw [ih, outside_eraseInnermost]
  | case3 s hmem => exact (outside_eq_some hmem).symm

/-! ### Rounds of erasing -/

theorem eraseInnermost_eq_self {s : List Char} (h : '<' ∉ s) : eraseInnermost s = s := by
  rw [eraseInnermost]
  induction s with
  | nil => rfl
  | cons c s ih =>
    rw [List.mem_cons, not_or] at h
    rw [eraseFrom, ih h.2]
    exact Ne.symm h.1

/-- **Erasing ends**: after at most as many rounds as a text has characters nothing is erased any
more.  The type arguments could be erased if no open bracket is left then. -/
theorem exists_rounds (s : List Char) : ∃ rounds ≤ s.length,
    Function.IsFixedPt eraseInnermost (eraseInnermost^[rounds] s) ∧
      eraseArguments s = if '<' ∈ eraseInnermost^[rounds] s then none
        else some (eraseInnermost^[rounds] s) := by
  fun_induction eraseArguments s with
  | case1 s hmem hsame => exact ⟨0, Nat.zero_le _, hsame, (if_pos hmem).symm⟩
  | case2 s hmem hchange ih =>
    obtain ⟨rounds, hle, hfixed, harguments⟩ := ih
    have hshorter := length_eraseInnermost_lt hchange
    exact ⟨rounds + 1, by omega, hfixed, harguments⟩
  | case3 s hmem => exact ⟨0, Nat.zero_le _, eraseInnermost_eq_self hmem, (if_neg hmem).symm⟩

/-! ### Matching with a stack -/

/-- Read a text from left to right and delete each pair of brackets, with what is left between them,
when it is closed.  The stack holds the text kept before each open bracket, that of the innermost in
front; `kept` is the text kept since then.  Kept texts are in reverse order.  A closing bracket
without an open one is kept, and there is no result if a bracket is left open. -/
def matchBrackets : (stack : List (List Char)) → (kept : List Char) → List Char →
    Option (List Char)
  | [], kept, [] => some kept.reverse
  | _ :: _, _, [] => none
  | stack, kept, c :: s =>
    if c = '<' then matchBrackets (kept :: stack) [] s
    else if c = '>' then
      match stack with
      | [] => matchBrackets [] (c :: kept) s
      | before :: stack => matchBrackets stack before s
    else matchBrackets stack (c :: kept) s

/-- The stack is as high as the number of open brackets, and the text kept outside of all of them
lies at its bottom. -/
theorem matchBrackets_eq_outside (stack : List (List Char)) (kept s : List Char) :
    matchBrackets stack kept s =
      (outside stack.length s).map ((stack.getLast?.getD kept).reverse ++ ·) := by
  fun_induction matchBrackets stack kept s with
  | case1 kept => simp [outside]
  | case2 before stack kept => rfl
  | case3 stack kept s ih =>
    rw [ih, outside_open, List.length_cons]
    cases stack <;> simp [List.getLast?_cons]
  | case4 kept s hopen ih =>
    rw [ih, List.length_nil, outside, if_neg hopen, Option.map_map]
    simp [Function.comp_def]
  | case5 kept s before stack hopen ih =>
    rw [ih, List.length_cons, outside, if_neg hopen, if_pos rfl, List.getLast?_cons,
      Option.getD_some]
  | case6 stack kept c s hopen hclose ih =>
    cases stack with
    | nil =>
      rw [ih, List.length_nil, outside, if_neg hopen, Option.map_map]
      simp [Function.comp_def]
    | cons before stack =>
      rw [ih, List.length_cons, outside, if_neg hopen, if_neg hclose, List.getLast?_cons]
      rfl

theorem matchBrackets_eq_eraseArguments (s : List Char) :
    matchBrackets [] [] s = eraseArguments s := by
  rw [matchBrackets_eq_outside, eraseArguments_eq_outside]
  simp

/-! ### The name of a written type -/

theorem dropGlobal_append (s : List Char) : dropGlobal ("global::".toList ++ s) = s := by
  rw [dropGlobal, List.isPrefixOf?_eq_some_iff_append_eq.2 rfl, Option.getD_some]

theorem dropGlobal_eq_self {s : List Char} (h : ¬ "global::".toList <+: s) : dropGlobal s = s := by
  have hnone : "global::".toList.isPrefixOf? s = none :=
    Option.eq_none_iff_forall_not_mem.2 fun rest hrest =>
      h ⟨rest, List.isPrefixOf?_eq_some_iff_append_eq.1 hrest⟩
  rw [dropGlobal, hnone, Option.getD_none]

theorem exists_dropGlobal_append (s : List Char) : ∃ front, s = front ++ dropGlobal s ∧
    (front = "global::".toList ∨ front = [] ∧ ¬ "global::".toList <+: s) := by
  by_cases h : "global::".toList <+: s
  · obtain ⟨rest, rfl⟩ := h
    rw [dropGlobal_append]
    exact ⟨_, rfl, .inl rfl⟩
  · rw [dropGlobal_eq_self h]
    exact ⟨[], rfl, .inr ⟨rfl, h⟩⟩

/-- A text is left of another one when its blanks are removed, then one `global::` in front and then
the question marks at the end. -/
def IsBare (s w : List Char) : Prop :=
  ∃ front marks, s.filter (fun c => !Text.isBlank c) = front ++ w ++ marks ∧
    (front = "global::".toList ∨ front = [] ∧ ¬ "global::".toList <+: w ++ marks) ∧
    (∀ c ∈ marks, c = '?') ∧ ∀ h : w ≠ [], w.getLast h ≠ '?'

theorem isBare_bare (s : List Char) : IsBare s (bare s) := by
  obtain ⟨front, hfront, hglobal⟩ := exists_dropGlobal_append (Text.compactChars s)
  -- the question marks at the end are taken off by `List.rdropWhile`
  have hmarks : bare s ++ (dropGlobal (Text.compactChars s)).rtakeWhile (· = '?') =
      dropGlobal (Text.compactChars s) := List.rdropWhile_append_rtakeWhile ..
  rw [← hmarks] at hfront
  refine ⟨front, _, hfront.trans (List.append_assoc ..).symm, ?_, fun c hc => ?_, fun hne => ?_⟩
  · refine hglobal.imp_right fun ⟨hempty, hnot⟩ => ⟨hempty, ?_⟩
    rwa [hfront, hempty] at hnot
  · simpa using List.mem_rtakeWhile_imp hc
  · have hlast := List.rdropWhile_last_not _ _ hne
    exact fun hmark => hlast (decide_eq_true hmark)

theorem isComposite_iff {s : List Char} :
    isComposite s = true ↔ s = [] ∨ s.head? = some '(' ∨ '[' ∈ s ∨ '*' ∈ s := by
  simp [isComposite, or_assoc]

theorem normalize?_eq_matched (written : String) :
    normalize? written =
      if bare written.toList = [] ∨ (bare written.toList).head? = some '(' ∨
          '[' ∈ bare written.toList ∨ '*' ∈ bare written.toList then none
      else (matchBrackets [] [] (bare written.toList)).bind fun rest =>
        if String.ofList rest ∈ predefined then none else some (String.ofList rest) := by
  rw [matchBrackets_eq_eraseArguments]
  simp only [normalize?, isComposite_iff]
  refine if_congr Iff.rfl rfl ?_
  cases eraseArguments (bare written.toList) <;> rfl

/-- **The name that a text is looked up by** is what one reading with a stack of brackets leaves of
it; that is what the rounds of erasing leave, and they end. -/
theorem normalize?_matches_brackets (written : String) :
    let w := bare written.toList
    IsBare written.toList w ∧
      (∃ rounds ≤ w.length, Function.IsFixedPt eraseInnermost (eraseInnermost^[rounds] w) ∧
        matchBrackets [] [] w = if '<' ∈ eraseInnermost^[rounds] w then none
          else some (eraseInnermost^[rounds] w)) ∧
      normalize? written =
        if w = [] ∨ w.head? = some '(' ∨ '[' ∈ w ∨ '*' ∈ w then none
        else (matchBrackets [] [] w).bind fun rest =>
          if String.ofList rest ∈ predefined then none else some (String.ofList rest) := by
  intro w
  refine ⟨isBare_bare written.toList, ?_, normalize?_eq_matched written⟩
  rw [matchBrackets_eq_eraseArguments]
  exact exists_rounds w

-- a pair in a pair, and a closing bracket that stands alone
example : matchBrackets [] [] "A<B<C>>>.D".toList = some "A>.D".toList := by decide

end Disposal.TypeName
