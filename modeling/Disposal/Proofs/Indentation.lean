import Disposal.Proofs.Advice
import Disposal.Proofs.Cancelling
import Disposal.Proofs.Surroundings

/-!
# The layout of generated sources

The lines of a generated source nest as the braces in them do: a line is indented by four spaces
for every brace that is open, and a blank line stands between two lines that are neither blank nor
at the edge of a body.

* `Artifact.depth` counts the open braces, `Artifact.Fits` says how a line has to stand between
  others, and `Artifact.LaidOut` that some lines can be put at a depth as a whole;
* `LaidOut.append`, `LaidOut.spaced`, `LaidOut.block` and `LaidOut.paragraphs` put lines together;
* `WorkItem.laidOut_lines`: the lines of a work item are laid out if its names hold neither braces
  nor blanks;
* `Pass.hasUnblankNames`: the names in the work items of a pass hold no blanks;
* `render_laid_out` puts this together for the text.
-/

namespace Disposal

/-- There is no blank in a text. -/
def Text.IsUnblank (s : String) : Prop := ∀ c ∈ s.toList, isBlank c = false

instance (s : String) : Decidable (Text.IsUnblank s) :=
  List.decidableBAll (fun c => Text.isBlank c = false) s.toList

namespace Artifact

/-! ### Lines where they stand -/

/-- How many braces some lines open and do not close. -/
def depth (lines : List (List Char)) : Int :=
  (lines.flatten.count '\x7b' : Int) - lines.flatten.count '\x7d'

@[simp] theorem depth_nil : depth [] = 0 := rfl

@[simp] theorem depth_append (ls ms : List (List Char)) :
    depth (ls ++ ms) = depth ls + depth ms := by
  simp only [depth, List.flatten_append, List.count_append]
  omega

theorem depth_cons (line : List Char) (ls : List (List Char)) :
    depth (line :: ls) = depth [line] + depth ls := depth_append [line] ls

/-- There is nothing to see in a line. -/
def IsBlankLine (line : List Char) : Prop := ∀ c ∈ line, Text.isBlank c = true

/-- A line at a depth starts behind four spaces for each level, and behind those of one level less
if it starts with a closing brace. -/
def IsIndented (depth : Int) (line : List Char) : Prop :=
  ∃ n c text, line = List.replicate n ' ' ++ c :: text ∧ Text.isBlank c = false ∧
    (n : Int) = 4 * (if c = '\x7d' then depth - 1 else depth)

/-- A line that a blank line can stand behind. -/
def CanEnd (line : List Char) : Prop := ¬ IsBlankLine line ∧ '\x7b' ∉ line

/-- A line that a blank line can stand before. -/
def CanStart (line : List Char) : Prop := ¬ IsBlankLine line ∧ '\x7d' ∉ line

/-- How a line stands between those before it and those behind it, where braces are open. -/
structure Fits (depth : Int) (before : List (List Char)) (line : List Char)
    (after : List (List Char)) : Prop where
  indented : ¬ IsBlankLine line → IsIndented depth line
  /-- Two blank lines are never adjacent, and none is behind an opening or before a closing
  brace. -/
  separated : IsBlankLine line →
    (∃ above ∈ before.getLast?, CanEnd above) ∧ ∃ below ∈ after.head?, CanStart below
  /-- No other blanks than spaces are used. -/
  spaces : ∀ c ∈ line, Text.isBlank c = true → c = ' '

theorem Fits.around {d : Int} {before after : List (List Char)} {line : List Char}
    (h : Fits d before line after) (pre post : List (List Char)) :
    Fits d (pre ++ before) line (after ++ post) where
  indented := h.indented
  separated hblank := by
    obtain ⟨⟨above, habove, hend⟩, below, hbelow, hstart⟩ := h.separated hblank
    refine ⟨⟨above, ?_, hend⟩, below, ?_, hstart⟩
    · rw [Option.mem_def] at habove ⊢
      rw [List.getLast?_append, habove]
      rfl
    · rw [Option.mem_def] at hbelow ⊢
      rw [List.head?_append, hbelow]
      rfl
  spaces := h.spaces

theorem append_eq_append_cons {α : Type} {ls ms before after : List α} {line : α}
    (h : ls ++ ms = before ++ line :: after) :
    (∃ rest, ls = before ++ line :: rest ∧ after = rest ++ ms) ∨
      ∃ above, before = ls ++ above ∧ ms = above ++ line :: after := by
  rcases List.append_eq_append_iff.1 h with ⟨above, hbefore, hms⟩ | ⟨rest, hls, hrest⟩
  · exact .inr ⟨above, hbefore, hms⟩
  · cases rest with
    | nil => exact .inr ⟨[], by simpa using hls.symm, hrest.symm⟩
    | cons l rest =>
      obtain ⟨rfl, rfl⟩ := List.cons.inj hrest
      exact .inl ⟨rest, hls, rfl⟩

/-- Lines stand as they have to where some braces are open, and in front of each of them at least as
many braces are open as a floor says. -/
def Fitting (floor base : Int) (lines : List (List Char)) : Prop :=
  ∀ before line after, lines = before ++ line :: after →
    floor ≤ base + depth before ∧ Fits (base + depth before) before line after

namespace Fitting

variable {floor base : Int} {ls ms : List (List Char)} {line : List Char}

theorem nil (floor base : Int) : Fitting floor base [] := by
  intro before line after hsplit
  simp at hsplit

theorem mono {lower : Int} (h : Fitting floor base ls) (hlower : lower ≤ floor) :
    Fitting lower base ls := fun before line after hsplit =>
  ⟨Int.le_trans hlower (h before line after hsplit).1, (h before line after hsplit).2⟩

theorem singleton (hfloor : floor ≤ base) (hblank : ¬ IsBlankLine line) (h : IsIndented base line)
    (hspaces : ∀ c ∈ line, Text.isBlank c = true → c = ' ') : Fitting floor base [line] := by
  intro before l after hsplit
  obtain ⟨rfl, hl⟩ | ⟨rfl, hl⟩ := List.append_eq_singleton_iff.1 hsplit.symm
  · obtain ⟨rfl, rfl⟩ := List.cons.inj hl
    rw [depth_nil, Int.add_zero]
    exact ⟨hfloor, fun _ => h, fun hb => absurd hb hblank, hspaces⟩
  · cases hl

theorem append (hls : Fitting floor base ls) (hms : Fitting floor (base + depth ls) ms) :
    Fitting floor base (ls ++ ms) := by
  intro before line after hsplit
  rcases append_eq_append_cons hsplit with ⟨rest, hls', rfl⟩ | ⟨above, rfl, hms'⟩
  · obtain ⟨hfloor, hfits⟩ := hls before line rest hls'
    exact ⟨hfloor, hfits.around [] ms⟩
  · obtain ⟨hfloor, hfits⟩ := hms above line after hms'
    rw [depth_append, ← Int.add_assoc]
    exact ⟨hfloor, by simpa using hfits.around ls []⟩

theorem spaced (hls : Fitting floor base ls) (hms : Fitting floor (base + depth ls) ms)
    (hend : ∃ above ∈ ls.getLast?, CanEnd above) (hstart : ∃ below ∈ ms.head?, CanStart below) :
    Fitting floor base (ls ++ [] :: ms) := by
  intro before line after hsplit
  rcases append_eq_append_cons hsplit with ⟨rest, hls', rfl⟩ | ⟨above, rfl, hms'⟩
  · obtain ⟨hfloor, hfits⟩ := hls before line rest hls'
    exact ⟨hfloor, hfits.around [] _⟩
  rw [depth_append, ← Int.add_assoc]
  rcases List.cons_eq_append_iff.1 hms' with ⟨rfl, hline⟩ | ⟨above, rfl, hrest⟩
  · -- the blank line itself
    obtain ⟨rfl, rfl⟩ := List.cons.inj hline
    rw [depth_nil, Int.add_zero, List.append_nil]
    refine ⟨?_, fun hblank => absurd (List.forall_mem_nil _) hblank, fun _ => ⟨hend, hstart⟩,
      List.forall_mem_nil _⟩
    obtain ⟨below, hbelow, -⟩ := hstart
    obtain ⟨ms', rfl⟩ := List.head?_eq_some_iff.1 hbelow
    simpa using (hms [] below ms' rfl).1
  · obtain ⟨hfloor, hfits⟩ := hms above line after hrest
    have hblank : depth ([] :: above) = depth above := by simp [depth]
    rw [hblank]
    refine ⟨hfloor, ?_⟩
    have hbefore : ls ++ [] :: above = (ls ++ [[]]) ++ above := by simp
    rw [hbefore]
    simpa only [List.append_nil] using hfits.around (ls ++ [[]]) []

end Fitting

/-! ### Lines of code -/

/-- A text that can stand in a line: without braces, and without blanks but spaces. -/
def IsClean (s : String) : Prop :=
  ∀ c ∈ s.toList, c ≠ '\x7b' ∧ c ≠ '\x7d' ∧ (Text.isBlank c = true → c = ' ')

instance (s : String) : Decidable (IsClean s) :=
  List.decidableBAll (fun c => c ≠ '\x7b' ∧ c ≠ '\x7d' ∧ (Text.isBlank c = true → c = ' ')) s.toList

theorem IsClean.append {s t : String} (hs : IsClean s) (ht : IsClean t) : IsClean (s ++ t) := by
  rw [IsClean, String.toList_append, List.forall_mem_append]
  exact ⟨hs, ht⟩

/-- A clean text that does not start with a blank. -/
structure IsCode (s : String) : Prop where
  clean : IsClean s
  start : ∃ c ∈ s.toList.head?, Text.isBlank c = false

theorem isCode_iff {s : String} : IsCode s ↔
    IsClean s ∧ s.toList.head?.any (fun c => !Text.isBlank c) = true := by
  rw [Option.any_eq_true]
  simp only [Bool.not_eq_true']
  exact ⟨fun h => ⟨h.clean, h.start⟩, fun h => ⟨h.1, h.2⟩⟩

instance (s : String) : Decidable (IsCode s) := decidable_of_iff' _ isCode_iff

theorem IsCode.append {s t : String} (hs : IsCode s) (ht : IsClean t) : IsCode (s ++ t) where
  clean := hs.clean.append ht
  start := by
    obtain ⟨c, hc, hblank⟩ := hs.start
    rw [Option.mem_def] at hc
    refine ⟨c, ?_, hblank⟩
    rw [Option.mem_def, String.toList_append, List.head?_append, hc]
    rfl

/-- A line with a text at a depth. -/
def indent (d : Nat) (text : List Char) : List Char := List.replicate (4 * d) ' ' ++ text

theorem mem_indent_iff {d : Nat} {text : List Char} {c : Char} (hc : c ≠ ' ') :
    c ∈ indent d text ↔ c ∈ text := by
  simp [indent, hc]

theorem count_indent (d : Nat) (text : List Char) {c : Char} (hc : c ≠ ' ') :
    (indent d text).count c = text.count c := by
  rw [indent, List.count_append, List.count_replicate, if_neg (by simpa using Ne.symm hc),
    Nat.zero_add]

theorem spaces_indent {d : Nat} {text : List Char}
    (h : ∀ c ∈ text, Text.isBlank c = true → c = ' ') :
    ∀ c ∈ indent d text, Text.isBlank c = true → c = ' ' :=
  List.forall_mem_append.2 ⟨fun _ hc _ => List.eq_of_mem_replicate hc, h⟩

theorem not_isBlankLine_indent {d : Nat} {text : List Char} {c : Char} (hc : c ∈ text)
    (h : Text.isBlank c = false) : ¬ IsBlankLine (indent d text) := by
  intro hblank
  rw [hblank c (List.mem_append_right _ hc)] at h
  cases h

theorem depth_indent (d : Nat) (text : List Char) : depth [indent d text] = depth [text] := by
  simp only [depth, List.flatten_singleton]
  rw [count_indent d text (by decide), count_indent d text (by decide)]

/-! ### Lines that are laid out -/

/-- The characters of some lines, line by line. -/
def texts (ls : List Line) : List (List Char) := ls.map fun l => l.toString.toList

@[simp] theorem texts_nil : texts [] = [] := rfl

@[simp] theorem texts_append (ls ms : List Line) : texts (ls ++ ms) = texts ls ++ texts ms :=
  List.map_append

@[simp] theorem texts_blank (ls : List Line) : texts (.blank :: ls) = [] :: texts ls := rfl

@[simp] theorem texts_code (d : Nat) (s : String) (ls : List Line) :
    texts (.code d s :: ls) = indent d s.toList :: texts ls := by
  simp [texts, Line.toString, indent]

/-- The characters of a text are those of its lines and the line feeds at their ends. -/
theorem mem_text {c : Char} {ls : List Line} (hc : c ∈ (text ls).toList) :
    c = '\n' ∨ ∃ line ∈ texts ls, c ∈ line := by
  induction ls with
  | nil => cases hc
  | cons l ls ih =>
    rw [text_cons, String.toList_append, String.toList_append, List.mem_append,
      List.mem_append] at hc
    rcases hc with (hc | hc) | hc
    · exact .inr ⟨_, List.mem_cons_self, hc⟩
    · exact .inl (by simpa using hc)
    · refine (ih hc).imp_right ?_
      rintro ⟨line, hline, hc⟩
      exact ⟨line, List.mem_cons_of_mem _ hline, hc⟩

/-- Lines that can be put at a depth: they close what they open, stand as they have to, and start
and end with lines that a blank line may come before and behind. -/
structure LaidOut (d : Nat) (ls : List Line) : Prop where
  balanced : depth (texts ls) = 0
  fitting : Fitting d d (texts ls)
  start : ∀ line ∈ (texts ls).head?, CanStart line
  ends : ∀ line ∈ (texts ls).getLast?, CanEnd line

namespace LaidOut

variable {d : Nat} {ls ms : List Line} {s : String}

theorem nil (d : Nat) : LaidOut d [] where
  balanced := rfl
  fitting := .nil _ _
  start := by simp [texts]
  ends := by simp [texts]

theorem code (d : Nat) (h : IsCode s) : LaidOut d [.code d s] := by
  obtain ⟨c, hc, hnotblank⟩ := h.start
  have hmem : c ∈ s.toList := List.mem_of_mem_head? hc
  have hblank : ¬ IsBlankLine (indent d s.toList) := not_isBlankLine_indent hmem hnotblank
  have hopen : '\x7b' ∉ s.toList := fun hmem => (h.clean _ hmem).1 rfl
  have hclose : '\x7d' ∉ s.toList := fun hmem => (h.clean _ hmem).2.1 rfl
  have hindented : IsIndented d (indent d s.toList) := by
    obtain ⟨text, hs⟩ := List.head?_eq_some_iff.1 hc
    refine ⟨4 * d, c, text, by rw [indent, hs], hnotblank, ?_⟩
    rw [if_neg (h.clean c hmem).2.1]
    simp
  have htexts : texts [.code d s] = [indent d s.toList] := texts_code d s []
  constructor <;> rw [htexts]
  · rw [depth_indent]
    simp [depth, List.count_eq_zero.2 hopen, List.count_eq_zero.2 hclose]
  · exact .singleton (Int.le_refl _) hblank hindented
      (spaces_indent fun c hc => (h.clean c hc).2.2)
  · simpa [CanStart, mem_indent_iff] using ⟨hblank, hclose⟩
  · simpa [CanEnd, mem_indent_iff] using ⟨hblank, hopen⟩

theorem append (hls : LaidOut d ls) (hms : LaidOut d ms) : LaidOut d (ls ++ ms) where
  balanced := by rw [texts_append, depth_append, hls.balanced, hms.balanced]; rfl
  fitting := by
    rw [texts_append]
    refine hls.fitting.append ?_
    rw [hls.balanced, Int.add_zero]
    exact hms.fitting
  start line hline := by
    rw [texts_append, List.head?_append, Option.mem_def, Option.or_eq_some_iff] at hline
    exact hline.elim (hls.start line) fun h => hms.start line h.2
  ends line hline := by
    rw [texts_append, List.getLast?_append, Option.mem_def, Option.or_eq_some_iff] at hline
    exact hline.elim (hms.ends line) fun h => hls.ends line h.2

theorem spaced (hls : LaidOut d ls) (hms : LaidOut d ms) (hne : ls ≠ []) (hne' : ms ≠ []) :
    LaidOut d (ls ++ .blank :: ms) := by
  obtain ⟨above, habove⟩ : ∃ above, (texts ls).getLast? = some above :=
    ⟨_, List.getLast?_eq_some_getLast (mt List.map_eq_nil_iff.1 hne)⟩
  obtain ⟨last, hlast⟩ : ∃ last, (texts ms).getLast? = some last :=
    ⟨_, List.getLast?_eq_some_getLast (mt List.map_eq_nil_iff.1 hne')⟩
  obtain ⟨first, hfirst⟩ : ∃ first, (texts ls).head? = some first :=
    ⟨_, List.head?_eq_some_head (mt List.map_eq_nil_iff.1 hne)⟩
  obtain ⟨below, hbelow⟩ : ∃ below, (texts ms).head? = some below :=
    ⟨_, List.head?_eq_some_head (mt List.map_eq_nil_iff.1 hne')⟩
  constructor
  · rw [texts_append, depth_append, hls.balanced, texts_blank, depth_cons, hms.balanced]
    rfl
  · rw [texts_append, texts_blank]
    refine hls.fitting.spaced ?_ ⟨above, habove, hls.ends above habove⟩
      ⟨below, hbelow, hms.start below hbelow⟩
    rw [hls.balanced, Int.add_zero]
    exact hms.fitting
  · rw [texts_append, List.head?_append, hfirst]
    exact fun line hline => hls.start line (hfirst.trans hline)
  · rw [texts_append, texts_blank, List.getLast?_append, List.getLast?_cons, hlast]
    exact fun line hline => hms.ends line (hlast.trans hline)

/-- A header with its body between braces. -/
theorem block {header : String} (hheader : IsCode header) (hls : LaidOut (d + 1) ls) :
    LaidOut d (Artifact.block d header ls) := by
  have hfirst := code d hheader
  have hblank : ∀ c, Text.isBlank c = false → ¬ IsBlankLine (indent d [c]) := fun c hc =>
    not_isBlankLine_indent (List.mem_singleton_self c) hc
  have hopen : depth [indent d ['\x7b']] = 1 := depth_indent d _
  have hclose : depth [indent d ['\x7d']] = -1 := depth_indent d _
  have hopening : Fitting d d [indent d ['\x7b']] :=
    .singleton (Int.le_refl _) (hblank _ (by decide))
      ⟨4 * d, '\x7b', [], rfl, by decide, by simp⟩
      (spaces_indent (List.forall_mem_singleton.2 (by decide)))
  have hclosing : Fitting d (d + 1) [indent d ['\x7d']] :=
    .singleton (by omega) (hblank _ (by decide)) ⟨4 * d, '\x7d', [], rfl, by decide, by simp⟩
      (spaces_indent (List.forall_mem_singleton.2 (by decide)))
  have hbody : Fitting d (d + 1) (texts ls) := hls.fitting.mono (by omega)
  have htexts : texts (Artifact.block d header ls) =
      texts [.code d header] ++ [indent d ['\x7b']] ++ texts ls ++ [indent d ['\x7d']] := by
    simp [Artifact.block]
  constructor <;> rw [htexts]
  · simp only [depth_append, hfirst.balanced, hopen, hls.balanced, hclose]
    rfl
  · refine ((hfirst.fitting.append ?_).append ?_).append ?_
    · rwa [hfirst.balanced, Int.add_zero]
    · rwa [depth_append, hfirst.balanced, hopen, Int.zero_add]
    · rwa [depth_append, depth_append, hfirst.balanced, hopen, hls.balanced, Int.zero_add,
        Int.add_zero]
  · exact fun line hline => hfirst.start line (by simpa using hline)
  · intro line hline
    rw [List.getLast?_concat, Option.mem_def, Option.some.injEq] at hline
    subst hline
    exact ⟨hblank _ (by decide), fun h => absurd ((mem_indent_iff (by decide)).1 h) (by decide)⟩

/-- Parts with a blank line between any two of them. -/
theorem paragraphs {parts : List (List Line)}
    (h : ∀ part ∈ parts, LaidOut d part ∧ part ≠ []) : LaidOut d (Artifact.paragraphs parts) := by
  induction parts with
  | nil => exact nil d
  | cons part parts ih =>
    rw [List.forall_mem_cons] at h
    cases parts with
    | nil => exact h.1.1
    | cons next parts =>
      have hnext := (List.forall_mem_cons.1 h.2).1.2
      refine h.1.1.spaced (ih h.2) h.1.2 ?_
      cases parts with
      | nil => exact hnext
      | cons third parts => exact fun hnil => hnext (List.append_eq_nil_iff.1 hnil).1

theorem depth_nonneg (h : LaidOut d ls) {before after : List (List Char)}
    (hsplit : texts ls = before ++ after) : 0 ≤ depth before := by
  cases after with
  | nil =>
    rw [List.append_nil] at hsplit
    exact Int.le_of_eq (hsplit ▸ h.balanced.symm)
  | cons line after =>
    have hfloor := (h.fitting before line after hsplit).1
    omega

theorem spaces (h : LaidOut d ls) :
    ∀ line ∈ texts ls, ∀ c ∈ line, Text.isBlank c = true → c = ' ' := by
  intro line hline
  obtain ⟨before, after, hsplit⟩ := List.append_of_mem hline
  exact (h.fitting before line after hsplit).2.spaces

theorem isOneLine (h : LaidOut d ls) : ∀ l ∈ ls, IsOneLine l.toString := by
  intro l hl hfeed
  have hspace := h.spaces _ (List.mem_map_of_mem hl) _ hfeed (by decide)
  cases hspace

/-- There are no other blanks in the text than spaces and the ends of the lines. -/
theorem blanks_text (h : LaidOut d ls) :
    ∀ c ∈ (text ls).toList, Text.isBlank c = true → c = ' ' ∨ c = '\n' := by
  intro c hc hblank
  rcases mem_text hc with rfl | ⟨line, hline, hc⟩
  · exact .inr rfl
  · exact .inl (h.spaces line hline c hc hblank)

end LaidOut

/-- **In a block behind some lines without braces** no brace is open up to its own and behind its
end only. -/
theorem depth_eq_zero_iff {head before after : List (List Char)} {body : List Line} {d : Nat}
    (hhead : '\x7b' ∉ head.flatten ∧ '\x7d' ∉ head.flatten) (hbody : LaidOut d body)
    (hsplit : head ++ ['\x7b'] :: (texts body ++ [['\x7d']]) = before ++ after) :
    0 ≤ depth before ∧ (depth before = 0 ↔ before.length ≤ head.length ∨ after = []) := by
  have hzero : depth head = 0 := by
    simp [depth, List.count_eq_zero.2 hhead.1, List.count_eq_zero.2 hhead.2]
  rcases List.append_eq_append_iff.1 hsplit with ⟨above, rfl, hrest⟩ | ⟨rest, rfl, -⟩
  · rcases List.cons_eq_append_iff.1 hrest with ⟨rfl, -⟩ | ⟨inner, rfl, hinner⟩
    · simp [hzero]
    -- behind the opening brace: in the body or at its end, or behind the closing brace
    have hopen : depth (head ++ ['\x7b'] :: inner) = 1 + depth inner := by
      rw [depth_append, depth_cons, hzero, Int.zero_add]
      rfl
    rw [hopen]
    rcases List.append_eq_append_iff.1 hinner with ⟨last, rfl, hlast⟩ | ⟨rest, hbefore, rfl⟩
    · rw [depth_append, hbody.balanced]
      rcases List.append_eq_singleton_iff.1 hlast.symm with ⟨rfl, rfl⟩ | ⟨rfl, rfl⟩
      · simp
      · have hclose : depth [['\x7d']] = -1 := rfl
        simp [hclose]
    · have hnonneg := hbody.depth_nonneg hbefore
      refine ⟨by omega, iff_of_false (by omega) ?_⟩
      simp
  · have hbefore : depth before = 0 := by
      rw [List.flatten_append] at hhead
      simp only [List.mem_append, not_or] at hhead
      simp [depth, List.count_eq_zero.2 hhead.1.1, List.count_eq_zero.2 hhead.2.1]
    simp [hbefore]

end Artifact

namespace WorkItem

open Artifact

variable {item : WorkItem}

/-- The names in a work item. -/
def names (item : WorkItem) : List String :=
  item.namespaceName :: item.className :: item.memberNames

/-- The names in a work item hold no blanks. -/
def HasUnblankNames (item : WorkItem) : Prop :=
  ∀ name ∈ item.names, Text.IsUnblank name

/-- The names in a work item hold no braces. -/
def HasUnbracedNames (item : WorkItem) : Prop :=
  ∀ name ∈ item.names, '\x7b' ∉ name.toList ∧ '\x7d' ∉ name.toList

theorem isClean_of_mem_names (hblank : item.HasUnblankNames) (hbrace : item.HasUnbracedNames)
    {name : String} (hname : name ∈ item.names) : IsClean name := by
  intro c hc
  refine ⟨?_, ?_, fun h => ?_⟩
  · rintro rfl
    exact (hbrace name hname).1 hc
  · rintro rfl
    exact (hbrace name hname).2 hc
  · rw [hblank name hname c hc] at h
    cases h

/-- A name in front of code that does not start with a blank; it may be empty. -/
theorem isCode_name_append (hblank : item.HasUnblankNames) (hbrace : item.HasUnbracedNames)
    {name s : String} (hname : name ∈ item.names) (hs : IsCode s) : IsCode (name ++ s) where
  clean := (isClean_of_mem_names hblank hbrace hname).append hs.clean
  start := by
    rw [String.toList_append, List.head?_append]
    cases h : name.toList.head? with
    | none => exact hs.start
    | some c => exact ⟨c, rfl, hblank name hname c (List.mem_of_mem_head? h)⟩

theorem laidOut_managedCleanup (hblank : item.HasUnblankNames) (hbrace : item.HasUnbracedNames) :
    LaidOut 4 item.managedCleanup := by
  rw [managedCleanup]
  split_ifs
  · exact .code 4 (by decide)
  · -- one line for each member
    have hmember : ∀ m ∈ item.memberNames, IsCode (m ++ ".Dispose();") := fun m hm =>
      isCode_name_append hblank hbrace (by simp [names, hm]) (by decide)
    generalize item.memberNames = members at hmember
    induction members with
    | nil => exact .nil 4
    | cons m members ih =>
      rw [List.forall_mem_cons] at hmember
      exact (LaidOut.code 4 hmember.1).append (ih hmember.2)

theorem laidOut_publicDispose (item : WorkItem) : LaidOut 2 item.publicDispose := by
  refine .block (by decide) ?_
  split_ifs
  · exact (LaidOut.code 3 (by decide)).append (LaidOut.code 3 (by decide))
  · exact .nil 3

theorem laidOut_privateDispose (hblank : item.HasUnblankNames) (hbrace : item.HasUnbracedNames) :
    LaidOut 2 item.privateDispose := by
  have hguard : LaidOut 3 (block 3 ("if (" ++ disposedFlag ++ ")") [.code 4 "return;"]) :=
    .block (by decide) (.code 4 (by decide))
  have hcleanup : LaidOut 3 (block 3 ("if (" ++ disposingParameter ++ ")") item.managedCleanup) :=
    .block (by decide) (laidOut_managedCleanup hblank hbrace)
  have hhook : LaidOut 3 [.code 3 "DisposeUnmanaged();"] := .code 3 (by decide)
  have hlast : LaidOut 3 [.code 3 (disposedFlag ++ " = true;")] := .code 3 (by decide)
  refine .block (by decide) (.paragraphs ?_)
  simp only [List.forall_mem_append, List.forall_mem_cons]
  refine ⟨⟨⟨⟨hguard, by simp [block]⟩, ⟨hcleanup, by simp [block]⟩, List.forall_mem_nil _⟩, ?_⟩,
    ⟨hlast, by simp⟩, List.forall_mem_nil _⟩
  split_ifs
  · exact List.forall_mem_singleton.2 ⟨hhook, by simp⟩
  · exact List.forall_mem_nil _

theorem laidOut_members (hblank : item.HasUnblankNames) (hbrace : item.HasUnbracedNames) :
    LaidOut 2 (paragraphs item.members) := by
  have hclass := isClean_of_mem_names hblank hbrace (by simp [names] : item.className ∈ item.names)
  have hfield : LaidOut 2 [.code 2 ("private bool " ++ disposedFlag ++ " = false;")] :=
    .code 2 (by decide)
  have hfinalizer : LaidOut 2 [.code 2 ("~" ++ item.className ++ "() => Dispose(false);")] :=
    .code 2 (((by decide : IsCode "~").append hclass).append (by decide))
  refine .paragraphs ?_
  simp only [members, List.forall_mem_append, List.forall_mem_singleton]
  refine ⟨⟨⟨?_, laidOut_publicDispose item, by simp [publicDispose, block]⟩, ?_⟩, ?_⟩
  · split_ifs
    · exact List.forall_mem_singleton.2 ⟨hfield, by simp⟩
    · exact List.forall_mem_nil _
  · split_ifs
    · exact List.forall_mem_singleton.2
        ⟨laidOut_privateDispose hblank hbrace, by simp [privateDispose, block]⟩
    · exact List.forall_mem_nil _
  · split_ifs
    · exact List.forall_mem_singleton.2 ⟨hfinalizer, by simp⟩
    · exact List.forall_mem_nil _

theorem laidOut_class (hblank : item.HasUnblankNames) (hbrace : item.HasUnbracedNames) :
    LaidOut 1 (block 1 item.classHeader (paragraphs item.members)) := by
  have hclass := isClean_of_mem_names hblank hbrace (by simp [names] : item.className ∈ item.names)
  have hkeywords : IsCode ((if item.accessibility.text = "" then "" else
      item.accessibility.text ++ " ") ++ "partial class ") := by
    generalize item.accessibility = a
    cases a <;> decide
  exact .block (hkeywords.append hclass) (laidOut_members hblank hbrace)

theorem laidOut_lines (hblank : item.HasUnblankNames) (hbrace : item.HasUnbracedNames) :
    LaidOut 0 item.lines := by
  have hnamespace :=
    isClean_of_mem_names hblank hbrace (by simp [names] : item.namespaceName ∈ item.names)
  have hblock : LaidOut 0 (block 0 ("namespace " ++ item.namespaceName)
      (block 1 item.classHeader (paragraphs item.members))) :=
    .block ((by decide : IsCode "namespace ").append hnamespace) (laidOut_class hblank hbrace)
  exact (LaidOut.code 0 (by decide)).spaced hblock (List.cons_ne_nil _ _) (by simp [block])

end WorkItem

/-! ### The names in work items -/

theorem Node.isUnblank_name (source : Text.Bytes) (n : Node) :
    Text.IsUnblank (n.name source) := by
  intro c hc
  rw [Node.name, Text.toList_compact] at hc
  exact Text.not_isBlank_of_mem_compactChars hc

theorem isUnblank_joinNames {outer : String} {names : List String}
    (houter : Text.IsUnblank outer) (hnames : ∀ name ∈ names, Text.IsUnblank name) :
    Text.IsUnblank (joinNames outer names) := by
  induction names generalizing outer with
  | nil => exact houter
  | cons name names ih =>
    rw [List.forall_mem_cons] at hnames
    refine ih ?_ hnames.2
    rw [joinName]
    split_ifs
    · exact hnames.1
    · simp only [Text.IsUnblank, String.toList_append, List.forall_mem_append]
      exact ⟨⟨houter, (by decide : Text.IsUnblank ".")⟩, hnames.1⟩

theorem isUnblank_of_namespaceName? {kind : String} {source : Text.Bytes} {n : Node} {x : String}
    (h : n.namespaceName? kind source = some x) : Text.IsUnblank x := by
  rw [Node.namespaceName?] at h
  split_ifs at h
  obtain ⟨name, -, rfl⟩ := Option.map_eq_some_iff.1 h
  exact name.isUnblank_name source

theorem Stands.isUnblank {source : Text.Bytes} {cs : List Node} {s : Surroundings} {n : Node}
    (h : Stands source cs s n) : ∀ name ∈ s.namespaces, Text.IsUnblank name := by
  induction h with
  | type => exact List.forall_mem_nil _
  | inBlock named enclosed inside ih =>
    exact List.forall_mem_cons.2 ⟨isUnblank_of_namespaceName? named, ih⟩
  | inFile named inside ih =>
    exact List.forall_mem_cons.2 ⟨isUnblank_of_namespaceName? named, ih⟩
  | behind rest ih =>
    refine List.forall_mem_append.2 ⟨fun name hname => ?_, ih⟩
    exact isUnblank_of_namespaceName? (Option.mem_toList.1 hname)

theorem TypeDecl.isUnblank {f : SourceFile} {d : TypeDecl} (h : d ∈ f.typeDecls) :
    Text.IsUnblank d.namespaceName ∧ Text.IsUnblank d.name := by
  obtain ⟨s, hs, -, hscope⟩ := SourceFile.records_declarations.1 ⟨d, h, rfl, rfl, rfl⟩
  obtain ⟨scope, outer, kind, name, -, -, hd⟩ := f.typeDecls_reads d h
  have hnamespace : d.namespaceName = d.scope.namespaceName := by rw [hd]; rfl
  have hname : d.name = name.name f.source := by rw [hd]; rfl
  rw [hnamespace, hscope, hname]
  exact ⟨isUnblank_joinNames (by decide) hs.isUnblank, name.isUnblank_name f.source⟩

namespace Pass

variable {config : Config} {files : List SourceFile} {cancel : Cancellation} {result : PassResult}

theorem workItems_of_result? (h : (ofFiles config files cancel).result? = some result) :
    result.workItems = (work config files).map Prod.fst := by
  obtain ⟨found, hfound, rfl⟩ := Option.map_eq_some_iff.1 h
  have hnever := hfound
  rw [ofFiles] at hnever
  rw [Provider.resolve_eq_never (by rw [hnever]; simp)] at hnever
  have hwork : found = work config files :=
    Option.some.inj (hnever.symm.trans resolved?_ofFiles)
  rw [hwork]
  rfl

/-- **The names in a work item of a pass hold no blanks**: all of them are names of nodes, or such
names joined by dots. -/
theorem hasUnblankNames (h : (ofFiles config files cancel).result? = some result)
    {item : WorkItem} (hitem : item ∈ result.workItems) : item.HasUnblankNames := by
  obtain ⟨same, hsame, hdescribes⟩ := workItems_describe config files
  rw [workItems_of_result? h, ← workItems_of_result hsame] at hitem
  have hitem := hdescribes item hitem
  obtain ⟨f, first, rest, hds, hnamespace, hclass⟩ := hitem.names
  have hfirst : (f, first) ∈ (config.sources files).declarationsOf item.qualifiedName := by
    rw [hds]
    exact List.mem_cons_self
  obtain ⟨hunblank, hunblank'⟩ := TypeDecl.isUnblank (Sources.mem_declarationsOf.1 hfirst).2.1
  refine List.forall_mem_cons.2 ⟨hnamespace ▸ hunblank, List.forall_mem_cons.2
    ⟨hclass ▸ hunblank', fun name hname => ?_⟩⟩
  rw [hitem.memberNames, Sources.disposableMembers] at hname
  obtain ⟨⟨g, d⟩, -, hname⟩ := List.mem_flatMap.1 hname
  obtain ⟨m, hm, rfl⟩ := List.mem_map.1 hname
  obtain ⟨n, -, hm⟩ := List.mem_flatMap.1 (List.mem_of_mem_filter hm)
  obtain ⟨-, node, hnode⟩ := MemberDecl.exists_name_of_mem hm
  exact hnode ▸ node.isUnblank_name g.source

end Pass

/-! ### The layout of the text -/

open Artifact in
/-- **Generated sources are laid out well** if the names in them hold neither blanks nor braces, and
no pass gives names with blanks.  The body is what stands between the braces of the namespace; only
outside of these no brace is open. -/
theorem render_laid_out :
    (∀ item : WorkItem, item.HasUnblankNames → item.HasUnbracedNames → ∃ lines body,
      Text.splitLines item.render.toList = lines ++ [[]] ∧
      lines = ["using System;".toList, [], ("namespace " ++ item.namespaceName).toList, ['\x7b']] ++
        body ++ [['\x7d']] ∧
      (∀ before after, lines = before ++ after →
        0 ≤ depth before ∧ (depth before = 0 ↔ before.length ≤ 3 ∨ after = [])) ∧
      (∀ before line after, lines = before ++ line :: after →
        Fits (depth before) before line after) ∧
      (∃ text, item.render = text ++ "\x7d\n") ∧
      '\t' ∉ item.render.toList ∧ '\r' ∉ item.render.toList) ∧
    ∀ (config : Config) (files : List SourceFile) (cancel : Cancellation) (result : PassResult),
      (Pass.ofFiles config files cancel).result? = some result →
        ∀ item ∈ result.workItems, item.HasUnblankNames := by
  refine ⟨fun item hblank hbrace => ?_, fun _ _ _ _ h _ hitem => Pass.hasUnblankNames h hitem⟩
  have hlines := WorkItem.laidOut_lines hblank hbrace
  -- the class stands in a block behind three lines
  let body := block 1 item.classHeader (paragraphs item.members)
  have hbody : LaidOut 1 body := WorkItem.laidOut_class hblank hbrace
  have htexts : texts item.lines = ["using System;".toList, [],
      ("namespace " ++ item.namespaceName).toList] ++ ['\x7b'] :: (texts body ++ [['\x7d']]) := by
    simp [WorkItem.lines, block, indent, body]
  have hhead : '\x7b' ∉ ["using System;".toList, [],
      ("namespace " ++ item.namespaceName).toList].flatten ∧ '\x7d' ∉ ["using System;".toList, [],
        ("namespace " ++ item.namespaceName).toList].flatten := by
    have hnamespace := hbrace item.namespaceName List.mem_cons_self
    simpa [WorkItem.names] using hnamespace
  refine ⟨texts item.lines, texts body, splitLines_text hlines.isOneLine, ?_,
    fun before after hsplit => ?_, fun before line after hsplit => ?_, ?_, fun htab => ?_,
    fun hreturn => ?_⟩
  · rw [htexts]
    rfl
  · exact depth_eq_zero_iff hhead hbody (htexts ▸ hsplit)
  · have hfits := (hlines.fitting before line after hsplit).2
    simpa using hfits
  · refine ⟨text ([.code 0 "using System;", .blank, .code 0 ("namespace " ++ item.namespaceName),
      .code 0 "\x7b"] ++ body), ?_⟩
    have hlast : item.lines = [.code 0 "using System;", .blank,
      .code 0 ("namespace " ++ item.namespaceName), .code 0 "\x7b"] ++ body ++ [.code 0 "\x7d"] :=
      rfl
    rw [WorkItem.render, hlast, text_append]
    rfl
  · rcases hlines.blanks_text _ htab (by decide) with h | h <;> cases h
  · rcases hlines.blanks_text _ hreturn (by decide) with h | h <;> cases h

/-- A class that holds two resources and cleans up others in a hook; the name of its namespace is
written with blanks. -/
def heldClass : List SourceFile :=
  [.read ("namespace N . M\x7bpartial class C:System.IDisposable\x7bSystem.IDisposable a,b;" ++
    "void DisposeUnmanaged()\x7b\x7d\x7d\x7d")]

/-- The work item of the class. -/
def heldItem : WorkItem where
  namespaceName := "N.M"
  className := "C"
  memberNames := ["a", "b"]
  unmanagedHook := true

open Artifact in
theorem render_laid_out_heldClass : ∃ result, ∃ lines : List (List Char),
    (Pass.ofFiles {} heldClass).result? = some result ∧ result.workItems = [heldItem] ∧
      heldItem.HasUnblankNames ∧ heldItem.HasUnbracedNames ∧
      Text.splitLines heldItem.render.toList = lines ++ [[]] ∧ lines.length = 35 ∧
      (∀ before after, lines = before ++ after →
        0 ≤ depth before ∧ (depth before = 0 ↔ before.length ≤ 3 ∨ after = [])) ∧
      ∀ before line after, lines = before ++ line :: after →
        Fits (depth before) before line after := by
  have hitems : (Pass.ofFiles {} heldClass).result?.map PassResult.workItems =
      some [heldItem] := by decide +kernel
  obtain ⟨result, hresult, hwork⟩ := Option.map_eq_some_iff.1 hitems
  have hblank : heldItem.HasUnblankNames :=
    render_laid_out.2 {} heldClass .never result hresult _ (hwork ▸ List.mem_singleton_self _)
  have hbrace : heldItem.HasUnbracedNames := by
    unfold WorkItem.HasUnbracedNames
    decide
  obtain ⟨lines, body, hlines, -, hdepth, hfits, -⟩ := render_laid_out.1 heldItem hblank hbrace
  have hone : heldItem.HasLineNames := ⟨by decide, by decide, by decide⟩
  have hlength : lines.length = 35 := by
    rw [WorkItem.render, splitLines_text hone.isOneLine] at hlines
    rw [← List.append_cancel_right hlines, List.length_map]
    rfl
  exact ⟨result, lines, hresult, hwork, hblank, hbrace, hlines, hlength, hdepth, hfits⟩

end Disposal
