import Disposal.Proofs.WrittenTypes
import Disposal.Using
import Mathlib.Data.List.DropRight

/-!
# Written using directives

A using directive consists of keywords with blanks behind them and of what is imported, in which
blanks can stand anywhere between the tokens.  A directive is read by its words, and a word ends
with a space: behind `global` and `static` no other blank will do.

* `Using.Directive` is a directive with the blanks behind its keywords, `Directive.Writes` says what
  texts it has and `Directive.imports` is what it imports;
* `Directive.body_of_writes`: the end of a directive is dropped;
* `Directive.reading` is what a directive is read as, and `Directive.ofText_of_body` and
  `Imported.targetOf_of_writes` read the keywords and what is imported;
* `Using.ofText_directive` puts this together: a directive is read as what it imports exactly if a
  space stands behind these two keywords.
-/

namespace Disposal

namespace Text

/-- What stands up to a character that is kept is kept. -/
theorem trimEnd_append_cons {p : Char → Bool} {c : Char} (hc : p c = false) (u v : List Char) :
    trimEnd p (u ++ c :: v) = u ++ c :: trimEnd p v := by
  change List.rdropWhile p (u ++ c :: v) = u ++ c :: List.rdropWhile p v
  induction v using List.reverseRecOn with
  | nil => exact List.rdropWhile_concat_neg _ _ _ (by simp [hc])
  | append_singleton v d ih =>
    rw [← List.cons_append, ← List.append_assoc, List.rdropWhile_concat, List.rdropWhile_concat]
    split_ifs
    · exact ih
    · rw [List.append_assoc, List.cons_append]

theorem trimEnd_eq_nil {p : Char → Bool} {s : List Char} (h : ∀ c ∈ s, p c = true) :
    trimEnd p s = [] :=
  List.rdropWhile_eq_nil_iff.2 h

theorem trimStart_append {p : Char → Bool} {blanks s : List Char} (h : ∀ c ∈ blanks, p c = true) :
    trimStart p (blanks ++ s) = trimStart p s :=
  List.dropWhile_append_of_pos h

theorem trimStart_append_cons {p : Char → Bool} {c : Char} (hc : p c = false) (u : List Char) :
    ∃ t, ∀ v, trimStart p (u ++ c :: v) = t ++ c :: v := by
  refine ⟨u.dropWhile p, fun v => ?_⟩
  rw [trimStart, List.dropWhile_append]
  split_ifs with hempty
  · rw [List.isEmpty_iff.1 hempty, List.dropWhile_cons_of_neg (by simp [hc]), List.nil_append]
  · rfl

theorem exists_trimEnd_eq_concat {p : Char → Bool} {s : List Char} (h : trimEnd p s ≠ []) :
    ∃ t c, trimEnd p s = t ++ [c] ∧ p c = false := by
  obtain ⟨t, c, hkept⟩ := (List.eq_nil_or_concat' _).resolve_left h
  have hlast := List.rdropWhile_last_not p s h
  change s.rdropWhile p = t ++ [c] at hkept
  simp only [hkept, List.getLast_append_singleton, Bool.not_eq_true] at hlast
  exact ⟨t, c, hkept, hlast⟩

theorem exists_last {s : List Char} (h : compactChars s ≠ []) : ∃ u c blanks,
    s = u ++ c :: blanks ∧ isBlank c = false ∧ ∀ b ∈ blanks, isBlank b = true := by
  have hne : trimEnd isBlank s ≠ [] := by
    intro hnil
    exact h (List.filter_eq_nil_iff.2 (by simpa using List.rdropWhile_eq_nil_iff.1 hnil))
  obtain ⟨u, c, hkept, hc⟩ := exists_trimEnd_eq_concat hne
  have hsplit : trimEnd isBlank s ++ s.rtakeWhile isBlank = s :=
    List.rdropWhile_append_rtakeWhile ..
  refine ⟨u, c, s.rtakeWhile isBlank, ?_, hc, fun b hb => List.mem_rtakeWhile_imp hb⟩
  exact hsplit.symm.trans (by rw [hkept, List.append_assoc, List.singleton_append])

theorem compactChars_eq_nil {s : List Char} (h : ∀ c ∈ s, isBlank c = true) :
    compactChars s = [] :=
  List.filter_eq_nil_iff.2 (by simpa using h)

theorem compactChars_trimStart (s : List Char) :
    compactChars (trimStart isBlank s) = compactChars s := by
  conv_rhs => rw [← List.takeWhile_append_dropWhile (p := isBlank) (l := s), compactChars_append,
    compactChars_eq_nil fun c hc => List.mem_takeWhile_imp hc]
  rfl

theorem mem_compactChars {s : List Char} {c : Char} (hc : isBlank c = false) :
    c ∈ compactChars s ↔ c ∈ s := by
  simp [compactChars, hc]

end Text

namespace Using

open Disposal.TypeName Program

/-! ### Directives -/

/-- Blanks that keep two words apart. -/
structure Gap where
  blanks : List Char
  nonempty : blanks ≠ []
  blank : ∀ c ∈ blanks, Text.isBlank c = true

/-- Whether the first of some blanks is a space. -/
def Gap.startsWithSpace (g : Gap) : Bool := g.blanks.head? == some ' '

/-- The first identifier of a name. -/
def firstOf : Written .name → Identifier
  | .identifier id _ => id
  | .dot outer _ _ => firstOf outer

/-- What stands behind the keyword `using`. -/
inductive Imported where
  /-- A namespace, perhaps behind `global::`. -/
  | namespaceMembers (isRooted : Bool) (name : Written .name)
      (notKeyword : (firstOf name).1 ≠ "static")
  /-- The keyword `static` and a type. -/
  | staticMembers (gap : Gap) (isRooted : Bool) (name : Written .name)
  /-- A further name for what is written behind the equals sign. -/
  | rename (id : Identifier) (target : List Char)

/-- A using directive, with the blanks behind its keywords. -/
structure Directive where
  /-- The blanks behind the keyword `global`, if the directive starts with it. -/
  globalGap : Option Gap
  usingGap : Gap
  imported : Imported

/-- A name without blanks. -/
def nameText (n : Written .name) : String := String.ofList (chars n.tokens)

/-- The tokens of a name, perhaps behind `global::`. -/
def nameTokens (isRooted : Bool) (n : Written .name) : List String :=
  (n.reference isRooted false).tokens

namespace Imported

/-- A text is what stands behind `using`, with blanks around its tokens or none, up to the end of
the directive. -/
def Writes : Imported → List Char → Prop
  | namespaceMembers isRooted n _, s => Spaced (nameTokens isRooted n ++ [";"]) s
  | staticMembers gap isRooted n, s => ∃ rest, s = "static".toList ++ gap.blanks ++ rest ∧
      Spaced (nameTokens isRooted n ++ [";"]) rest
  | rename id target, s => ∃ front rest, s = front ++ '=' :: target ++ rest ∧
      Spaced [id.1] front ∧ Spaced [";"] rest

/-- The namespace that is imported. -/
def target : Imported → Option String
  | namespaceMembers _ n _ => some (nameText n)
  | staticMembers .. => none
  | rename .. => none

/-- The namespace that is read.  If no space follows, `static` counts as a part of the name. -/
def readTarget : Imported → Option String
  | namespaceMembers _ n _ => some (nameText n)
  | staticMembers gap isRooted n =>
    if gap.startsWithSpace then none
    else some (String.ofList ("static".toList ++ chars (nameTokens isRooted n)))
  | rename .. => none

/-- Whether a space stands behind the keyword `static`, if there is one. -/
def isSpaced : Imported → Bool
  | staticMembers gap _ _ => gap.startsWithSpace
  | _ => true

end Imported

namespace Directive

/-- The keywords of a directive with the blanks behind them. -/
def keywords (d : Directive) : List Char :=
  (match d.globalGap with
    | none => []
    | some gap => "global".toList ++ gap.blanks) ++ "using".toList ++ d.usingGap.blanks

/-- A text is that of a directive. -/
def Writes (d : Directive) (s : List Char) : Prop :=
  ∃ rest, s = d.keywords ++ rest ∧ d.imported.Writes rest

/-- What a directive imports. -/
def imports (d : Directive) : Using := ⟨d.imported.target, d.globalGap.isSome⟩

/-- What a directive is read as.  If no space follows, `global` is taken for something else and
nothing is read. -/
def reading (d : Directive) : Using :=
  if d.globalGap.all Gap.startsWithSpace then ⟨d.imported.readTarget, d.globalGap.isSome⟩
  else ⟨none, false⟩

/-- Whether a space stands behind the keywords `global` and `static`, as far as there are any. -/
def isSpaced (d : Directive) : Bool :=
  d.globalGap.all Gap.startsWithSpace && d.imported.isSpaced

/-- A directive is read as what it imports if spaces stand behind its keywords. -/
theorem reading_eq_imports_iff (d : Directive) : d.reading = d.imports ↔ d.isSpaced = true := by
  obtain ⟨globalGap, gap, imported⟩ := d
  simp only [reading, imports, isSpaced, Bool.and_eq_true]
  split_ifs with hglobal
  · cases imported with
    | namespaceMembers isRooted n _ =>
      simp [Imported.readTarget, Imported.target, Imported.isSpaced, hglobal]
    | staticMembers gap isRooted n =>
      simp [Imported.readTarget, Imported.target, Imported.isSpaced, hglobal]
    | rename id target => simp [Imported.readTarget, Imported.target, Imported.isSpaced, hglobal]
  · cases globalGap with
    | none => simp at hglobal
    | some gap => simp [hglobal]

end Directive

/-! ### Words -/

theorem afterWord?_append (word : String) (s : List Char) :
    afterWord? word (word.toList ++ s) = some (Text.trimBlank s) := by
  rw [afterWord?, List.isPrefixOf?_eq_some_iff_append_eq.2 rfl, Option.map_some]

theorem afterWord?_eq_none {word : String} {s : List Char} (h : ¬ word.toList <+: s) :
    afterWord? word s = none := by
  rw [afterWord?, Option.map_eq_none_iff]
  exact Option.eq_none_iff_forall_not_mem.2 fun rest hrest =>
    h ⟨rest, List.isPrefixOf?_eq_some_iff_append_eq.1 hrest⟩

/-- Blanks in front of a text are dropped; nothing else is if it ends with another character. -/
theorem trimBlank_append {blanks s : List Char} {c : Char}
    (hblanks : ∀ b ∈ blanks, Text.isBlank b = true) (hc : Text.isBlank c = false) :
    Text.trimBlank (blanks ++ (s ++ [c])) = Text.trimStart Text.isBlank (s ++ [c]) := by
  obtain ⟨t, ht⟩ := Text.trimStart_append_cons hc s
  rw [Text.trimBlank, Text.trimStart_append hblanks, ht []]
  exact List.rdropWhile_concat_neg _ _ _ (by simp [hc])

theorem trimStart_of_not_isBlank {c : Char} (hc : Text.isBlank c = false) (s : List Char) :
    Text.trimStart Text.isBlank (c :: s) = c :: s :=
  List.dropWhile_cons_of_neg (by simp [hc])

theorem afterWord?_using (gap : Gap) {s : List Char} {c : Char} (hc : Text.isBlank c = false) :
    afterWord? "using" ("using".toList ++ gap.blanks ++ (s ++ [c])) =
      some (Text.trimStart Text.isBlank (s ++ [c])) := by
  rw [List.append_assoc, afterWord?_append, trimBlank_append gap.blank hc]

theorem not_global_isPrefix_using (s : List Char) :
    ¬ "global ".toList <+: "using".toList ++ s := by
  rintro ⟨rest, hrest⟩
  simp at hrest

theorem not_using_isPrefix_global (s : List Char) :
    ¬ "using".toList <+: "global".toList ++ s := by
  rintro ⟨rest, hrest⟩
  simp at hrest

/-- A word with a space behind it is found where the gap starts with a space. -/
theorem word_isPrefix_iff (word : List Char) (gap : Gap) (s : List Char) :
    word ++ [' '] <+: word ++ (gap.blanks ++ s) ↔ gap.startsWithSpace = true := by
  obtain ⟨b, blanks, hblanks⟩ := List.exists_cons_of_ne_nil gap.nonempty
  rw [List.prefix_append_right_inj, Gap.startsWithSpace, hblanks, List.cons_append,
    List.cons_prefix_cons]
  simpa using eq_comm

theorem global_eq : "global ".toList = "global".toList ++ [' '] := by decide

theorem static_eq : "static ".toList = "static".toList ++ [' '] := by decide

theorem afterWord?_global {gap : Gap} (hspace : gap.startsWithSpace = true) {s : List Char}
    {c : Char} (hc : Text.isBlank c = false) :
    afterWord? "global " ("global".toList ++ (gap.blanks ++ (s ++ [c]))) =
      some (Text.trimStart Text.isBlank (s ++ [c])) := by
  obtain ⟨b, blanks, hblanks⟩ := List.exists_cons_of_ne_nil gap.nonempty
  have hb : b = ' ' := by simpa [Gap.startsWithSpace, hblanks] using hspace
  have hrest : ∀ d ∈ blanks, Text.isBlank d = true := fun d hd =>
    gap.blank d (hblanks ▸ List.mem_cons_of_mem b hd)
  have hsplit : "global".toList ++ (gap.blanks ++ (s ++ [c])) =
      "global ".toList ++ (blanks ++ (s ++ [c])) := by
    rw [global_eq, hblanks, hb, List.append_assoc, List.singleton_append, List.cons_append]
  rw [hsplit, afterWord?_append, trimBlank_append hrest hc]

/-- **Reading the keywords** of a directive without its end. -/
theorem Directive.ofText_of_body {d : Directive} {written : String} {s : List Char} {c : Char}
    (hc : Text.isBlank c = false) (hbody : body written.toList = d.keywords ++ (s ++ [c])) :
    ofText written = if d.globalGap.all Gap.startsWithSpace then
      ⟨targetOf (Text.trimStart Text.isBlank (s ++ [c])), d.globalGap.isSome⟩
      else ⟨none, false⟩ := by
  obtain ⟨globalGap, gap, imported⟩ := d
  rw [ofText, hbody, keywords]
  cases globalGap with
  | none =>
    have hnot := not_global_isPrefix_using (gap.blanks ++ (s ++ [c]))
    rw [← List.append_assoc] at hnot
    rw [List.nil_append, afterWord?_eq_none hnot]
    dsimp only
    rw [afterWord?_using gap hc]
    rfl
  | some globalGap =>
    -- the text behind `global` starts with `using` and ends as the directive does
    have hsplit :
        "global".toList ++ globalGap.blanks ++ "using".toList ++ gap.blanks ++ (s ++ [c]) =
          "global".toList ++ (globalGap.blanks ++ ("using".toList ++ gap.blanks ++ s ++ [c])) := by
      simp only [List.append_assoc]
    dsimp only
    rw [hsplit, Option.all_some]
    cases hspace : globalGap.startsWithSpace with
    | true =>
      have husing : Text.trimStart Text.isBlank ("using".toList ++ gap.blanks ++ s ++ [c]) =
          "using".toList ++ gap.blanks ++ (s ++ [c]) := by
        rw [List.append_assoc ("using".toList ++ gap.blanks)]
        exact trimStart_of_not_isBlank (by decide) _
      rw [afterWord?_global hspace hc, husing]
      dsimp only
      rw [afterWord?_using gap hc]
      rfl
    | false =>
      have hnot : ¬ "global ".toList <+:
          "global".toList ++ (globalGap.blanks ++ ("using".toList ++ gap.blanks ++ s ++ [c])) := by
        rw [global_eq, word_isPrefix_iff, hspace]
        exact Bool.false_ne_true
      rw [afterWord?_eq_none hnot]
      dsimp only
      rw [afterWord?_eq_none (not_using_isPrefix_global _)]
      rfl

/-! ### The end of a directive -/

/-- What is left of the text behind the last character that is kept. -/
def ending (v : List Char) : List Char :=
  Text.trimEnd Text.isBlank (Text.trimEnd (· = ';') (Text.trimEnd Text.isBlank v))

theorem ending_semicolon {blanks rest : List Char} (hblanks : ∀ b ∈ blanks, Text.isBlank b = true)
    (hrest : ∀ b ∈ rest, Text.isBlank b = true) : ending (blanks ++ ';' :: rest) = [] := by
  have hsemicolon : ∀ b ∈ blanks, b ≠ ';' := by
    rintro b hb rfl
    exact absurd (hblanks _ hb) (by decide)
  have hfirst : Text.trimEnd Text.isBlank (blanks ++ ';' :: rest) = blanks ++ [';'] := by
    rw [Text.trimEnd_append_cons (by decide), Text.trimEnd_eq_nil hrest]
  have hsecond : Text.trimEnd (· = ';') (blanks ++ [';']) = blanks := by
    refine (List.rdropWhile_concat_pos _ _ _ (by decide)).trans (List.rdropWhile_eq_self_iff.2 ?_)
    exact fun hne => by simpa using hsemicolon _ (List.getLast_mem hne)
  rw [ending, hfirst, hsecond, Text.trimEnd_eq_nil hblanks]

/-- A directive is kept up to its last character that is neither blank nor a semicolon. -/
theorem body_cons_append_cons {b c : Char} (hb : Text.isBlank b = false)
    (hc : Text.isBlank c = false) (hsemicolon : c ≠ ';') (u v : List Char) :
    body (b :: u ++ c :: v) = b :: u ++ c :: ending v := by
  have htrim : ∀ w, Text.trimBlank (b :: u ++ c :: w) =
      b :: u ++ c :: Text.trimEnd Text.isBlank w := by
    intro w
    rw [Text.trimBlank, List.cons_append, trimStart_of_not_isBlank hb, ← List.cons_append,
      Text.trimEnd_append_cons hc]
  rw [body, htrim, Text.trimEnd_append_cons (by simpa using hsemicolon), htrim, ending]

theorem Directive.exists_keywords (d : Directive) :
    ∃ b rest, d.keywords = b :: rest ∧ Text.isBlank b = false := by
  obtain ⟨globalGap, gap, imported⟩ := d
  cases globalGap with
  | none => exact ⟨'u', _, rfl, by decide⟩
  | some gap => exact ⟨'g', _, rfl, by decide⟩

/-! ### What is imported -/

theorem targetOf_of_static {s : List Char} (h : "static ".toList <+: s) : targetOf s = none := by
  rw [targetOf, List.isPrefixOf_iff_prefix.2 h]
  rfl

theorem targetOf_of_equals {s : List Char} (h : '=' ∈ s) : targetOf s = none := by
  rw [targetOf, List.contains_iff_mem.2 h, Bool.or_true]
  rfl

theorem targetOf_eq_some {s target : List Char} (hstatic : ¬ "static ".toList <+: s)
    (hequals : '=' ∉ s) (htarget : dropGlobal (Text.compactChars s) = target) (hne : target ≠ []) :
    targetOf s = some (String.ofList target) := by
  rw [← List.isPrefixOf_iff_prefix] at hstatic
  rw [← List.contains_iff_mem] at hequals
  simp only [targetOf, hstatic, hequals, htarget, List.isEmpty_iff, hne]
  rfl

/-! ### Names in a directive -/

theorem chars_ne_nil (n : Written .name) : chars n.tokens ≠ [] := by
  obtain ⟨front, c, hchars, -⟩ := n.chars_eq_concat
  rw [hchars]
  exact List.concat_ne_nil _ _

theorem ne_of_mem_chars {p : Part} (t : Written p) {c : Char} (hc : c ∈ chars t.tokens) :
    c ≠ '=' ∧ c ≠ ';' := by
  have hother : ∀ d ∈ ['=', ';'], isNameChar d = false ∧ d ∉ Written.punctuation ∧
      d ∉ Written.arrayMarks :=
    List.forall_mem_cons.2 ⟨by decide, List.forall_mem_singleton.2 (by decide)⟩
  have hnot : c ∉ ['=', ';'] := by
    intro hmem
    obtain ⟨hname, hpunctuation, hmark⟩ := hother c hmem
    rcases t.belongs_of_mem_chars hc with h | h | h
    · rw [hname] at h
      cases h
    · exact hpunctuation h
    · exact hmark h.2
  simpa using hnot

/-- The tokens of a name start with an identifier and go on with punctuation. -/
theorem exists_tokens_eq_cons : (n : Written .name) → (behind : String) → (ts : List String) →
    behind ∈ [".", "<", ";"] → ∃ next more,
      n.tokens ++ behind :: ts = (firstOf n).1 :: next :: more ∧ next ∈ [".", "<", ";"]
  | .identifier id arguments, behind, ts, hbehind => by
    rw [Written.tokens, Written.angles, firstOf]
    split_ifs
    · exact ⟨behind, ts, rfl, hbehind⟩
    · exact ⟨"<", _, rfl, by decide⟩
  | .dot outer id arguments, behind, ts, _ => by
    rw [Written.tokens, firstOf, List.append_assoc, List.cons_append]
    exact exists_tokens_eq_cons outer "." _ (by decide)

theorem exists_nameTokens_eq_cons (isRooted : Bool) {n : Written .name}
    (hn : (firstOf n).1 ≠ "static") : ∃ word next more,
      nameTokens isRooted n ++ [";"] = word :: next :: more ∧ IsName word ∧ word ≠ "static" ∧
        next ∈ ["::", ".", "<", ";"] := by
  cases isRooted with
  | false =>
    obtain ⟨next, more, htokens, hnext⟩ := exists_tokens_eq_cons n ";" [] (by decide)
    exact ⟨_, next, more, htokens, (firstOf n).2, hn, List.mem_cons_of_mem _ hnext⟩
  | true => exact ⟨"global", "::", _, rfl, by decide, by decide, by decide⟩

/-- A text that starts with punctuation, or with blanks, starts with no character of a name. -/
theorem isNameChar_of_mem_head? {next : String} {more : List String} {s : List Char}
    (hnext : next ∈ ["::", ".", "<", ";"]) (h : Spaced (next :: more) s) {c : Char}
    (hc : c ∈ s.head?) : isNameChar c = false := by
  have hpunctuation : ∀ t ∈ ["::", ".", "<", ";"],
      (t.toList.head?.any fun c => !isNameChar c) = true := by decide
  cases h with
  | @cons blanks s _ _ blank rest =>
    cases blanks with
    | nil =>
      obtain ⟨d, hd, hany⟩ := (Option.any_eq_true ..).1 (hpunctuation next hnext)
      have hname : isNameChar d = false := by simpa using hany
      have hsame : (next.toList ++ s).head? = some d := by
        rw [List.head?_append, hd, Option.some_or]
      rw [List.nil_append, hsame] at hc
      exact Option.some.inj hc ▸ hname
    | cons b blanks =>
      have hb : b = c := Option.some.inj hc
      have hblank := blank b List.mem_cons_self
      by_contra hname
      rw [Bool.not_eq_false, ← hb] at hname
      rw [isBlank_of_isNameChar hname] at hblank
      cases hblank

theorem not_static_isPrefix {word : String} {s : List Char} (hword : IsName word)
    (hne : word ≠ "static") (hs : ∀ c ∈ s.head?, isNameChar c = false) :
    ¬ "static ".toList <+: word.toList ++ s := by
  rintro ⟨rest, hrest⟩
  have hstatic : "static".toList.all isNameChar = true := by decide
  have hstop : s.takeWhile isNameChar = [] := by
    cases s with
    | nil => rfl
    | cons c s => simp [hs c rfl]
  -- both texts start with a word, and words are as long as possible
  have hwords := congrArg (List.takeWhile isNameChar) hrest
  rw [static_eq, List.append_assoc, List.takeWhile_append_of_pos (List.all_eq_true.1 hstatic),
    List.takeWhile_append_of_pos hword.2, hstop, List.singleton_append,
    List.takeWhile_cons_of_neg (by decide), List.append_nil, List.append_nil] at hwords
  exact hne (String.toList_inj.1 hwords.symm)

theorem not_static_isPrefix_trimStart {word next : String} {more : List String} {s : List Char}
    (hword : IsName word) (hne : word ≠ "static") (hnext : next ∈ ["::", ".", "<", ";"])
    (h : Spaced (word :: next :: more) s) :
    ¬ "static ".toList <+: Text.trimStart Text.isBlank s := by
  cases h with
  | @cons blanks s _ _ blank rest =>
    obtain ⟨b, chars, hchars⟩ :=
      List.exists_cons_of_ne_nil (l := word.toList) (by simpa using hword.1)
    have hb : Text.isBlank b = false := isBlank_of_isNameChar (hword.2 b (by simp [hchars]))
    rw [List.append_assoc, Text.trimStart_append blank, hchars, List.cons_append,
      trimStart_of_not_isBlank hb, ← List.cons_append, ← hchars]
    exact not_static_isPrefix hword hne fun c hc => isNameChar_of_mem_head? hnext rest hc

theorem exists_of_semicolon {ts : List String} {s : List Char} (h : Spaced (ts ++ [";"]) s) :
    ∃ front behind, s = front ++ ';' :: behind ∧ Spaced ts front ∧
      ∀ c ∈ behind, Text.isBlank c = true := by
  induction ts generalizing s with
  | nil =>
    cases h with
    | @cons blanks s _ _ blank rest =>
      cases rest with
      | nil hs => exact ⟨blanks, s, List.append_assoc .., .nil blank, hs⟩
  | cons t ts ih =>
    cases h with
    | @cons blanks s _ _ blank rest =>
      obtain ⟨front, behind, rfl, hfront, hbehind⟩ := ih rest
      exact ⟨blanks ++ t.toList ++ front, behind, (List.append_assoc ..).symm,
        .cons blank hfront, hbehind⟩

/-- The text of a name up to its last character, and what stands behind it. -/
theorem exists_name_end {isRooted : Bool} {n : Written .name} {s : List Char}
    (h : Spaced (nameTokens isRooted n ++ [";"]) s) : ∃ u c v, s = u ++ c :: v ∧
      Text.isBlank c = false ∧ c ≠ ';' ∧ ending v = [] ∧
      Text.compactChars (u ++ [c]) = chars (nameTokens isRooted n) := by
  obtain ⟨front, behind, rfl, hfront, hbehind⟩ := exists_of_semicolon h
  have hcompact := hfront.compactChars_eq fun c hc => Written.isBlank_of_mem_chars _ hc
  have hne : Text.compactChars front ≠ [] := by
    intro hnil
    have hname := dropGlobal_reference isRooted false n
    rw [← nameTokens, ← hcompact, hnil] at hname
    exact chars_ne_nil n (List.append_eq_nil_iff.1 hname.symm).1
  obtain ⟨u, c, blanks, rfl, hc, hblanks⟩ := Text.exists_last hne
  have hmem : c ∈ chars (nameTokens isRooted n) := by
    rw [← hcompact, Text.mem_compactChars hc]
    simp
  refine ⟨u, c, blanks ++ ';' :: behind, by simp, hc, (ne_of_mem_chars _ hmem).2,
    ending_semicolon hblanks hbehind, ?_⟩
  have hsplit : u ++ c :: blanks = u ++ [c] ++ blanks := by simp
  rw [← hcompact, hsplit, Text.compactChars_append _ blanks, Text.compactChars_eq_nil hblanks,
    List.append_nil]

theorem equals_notMem {isRooted : Bool} {n : Written .name} {s : List Char}
    (h : Text.compactChars s = chars (nameTokens isRooted n)) : '=' ∉ s := by
  rw [← Text.mem_compactChars (by decide), h]
  exact fun hmem => (ne_of_mem_chars _ hmem).1 rfl

namespace Imported

/-- **Reading what is imported**: a text for it has a last character that is kept, and up to there
the namespace is read. -/
theorem targetOf_of_writes {i : Imported} {s : List Char} (h : i.Writes s) : ∃ u c v,
    s = u ++ c :: v ∧ Text.isBlank c = false ∧ c ≠ ';' ∧
      targetOf (Text.trimStart Text.isBlank (u ++ c :: ending v)) = i.readTarget := by
  cases i with
  | namespaceMembers isRooted n hn =>
    obtain ⟨u, c, v, rfl, hc, hsemicolon, hending, hcompact⟩ := exists_name_end h
    refine ⟨u, c, v, rfl, hc, hsemicolon, ?_⟩
    obtain ⟨t, ht⟩ := Text.trimStart_append_cons hc u
    have hkept : Text.compactChars (t ++ [c]) = chars (nameTokens isRooted n) := by
      rw [← ht [], Text.compactChars_trimStart, hcompact]
    have hstatic : ¬ "static ".toList <+: t ++ [c] := by
      obtain ⟨word, next, more, htokens, hword, hne, hnext⟩ :=
        exists_nameTokens_eq_cons isRooted hn
      rw [Writes, htokens] at h
      have hnot := not_static_isPrefix_trimStart hword hne hnext h
      rw [ht] at hnot
      exact fun hstart => hnot (hstart.trans ⟨v, by simp⟩)
    rw [hending, ht, readTarget, nameText]
    refine targetOf_eq_some hstatic (equals_notMem hkept) ?_ (chars_ne_nil n)
    rw [hkept, nameTokens, dropGlobal_reference]
    simp
  | staticMembers gap isRooted n =>
    obtain ⟨rest, rfl, hrest⟩ := h
    obtain ⟨u, c, v, rfl, hc, hsemicolon, hending, hcompact⟩ := exists_name_end hrest
    refine ⟨"static".toList ++ gap.blanks ++ u, c, v, by simp only [List.append_assoc], hc,
      hsemicolon, ?_⟩
    have htrim : Text.trimStart Text.isBlank ("static".toList ++ gap.blanks ++ u ++ [c]) =
        "static".toList ++ (gap.blanks ++ (u ++ [c])) := by
      rw [List.append_assoc, List.append_assoc]
      exact trimStart_of_not_isBlank (by decide) _
    rw [hending, htrim, readTarget]
    cases hspace : gap.startsWithSpace with
    | true =>
      rw [if_pos rfl]
      refine targetOf_of_static ?_
      rw [static_eq, word_isPrefix_iff, hspace]
    | false =>
      have hkept : Text.compactChars ("static".toList ++ (gap.blanks ++ (u ++ [c]))) =
          "static".toList ++ chars (nameTokens isRooted n) := by
        rw [Text.compactChars_append, Text.compactChars_append, hcompact,
          Text.compactChars_eq_nil gap.blank]
        rfl
      have hstatic : ¬ "static ".toList <+: "static".toList ++ (gap.blanks ++ (u ++ [c])) := by
        rw [static_eq, word_isPrefix_iff, hspace]
        exact Bool.false_ne_true
      have hequals : '=' ∉ "static".toList ++ (gap.blanks ++ (u ++ [c])) := by
        rw [← Text.mem_compactChars (by decide), hkept, List.mem_append]
        rintro (hmem | hmem)
        · exact absurd hmem (by decide)
        · exact (ne_of_mem_chars _ hmem).1 rfl
      rw [if_neg Bool.false_ne_true]
      refine targetOf_eq_some hstatic hequals ?_ (by simp)
      rw [hkept]
      refine dropGlobal_eq_self ?_
      rintro ⟨rest, hrest⟩
      simp at hrest
  | rename id target =>
    obtain ⟨front, rest, rfl, -, -⟩ := h
    refine ⟨front, '=', target ++ rest, by simp, by decide, by decide, ?_⟩
    obtain ⟨t, ht⟩ := Text.trimStart_append_cons (p := Text.isBlank) (c := '=') (by decide) front
    rw [ht]
    exact targetOf_of_equals (by simp)

end Imported

/-- **A using directive is read as what it imports** exactly if a space stands behind the keywords
`global` and `static`, however it is spaced otherwise.  Behind `global` any other blank makes it
read as no import, and behind `static` as an import of the name with `static` in front. -/
theorem ofText_directive {d : Directive} {written : String} (h : d.Writes written.toList) :
    ofText written = d.reading ∧ (ofText written = d.imports ↔ d.isSpaced = true) := by
  have hread : ofText written = d.reading := by
    obtain ⟨rest, hwritten, hrest⟩ := h
    obtain ⟨u, c, v, rfl, hc, hsemicolon, htarget⟩ := Imported.targetOf_of_writes hrest
    obtain ⟨b, ks, hkeywords, hb⟩ := d.exists_keywords
    have hbody : body written.toList = d.keywords ++ (u ++ c :: ending v) := by
      rw [hwritten, hkeywords, List.cons_append, ← List.append_assoc, ← List.cons_append,
        body_cons_append_cons hb hc hsemicolon, List.cons_append, List.append_assoc,
        List.cons_append]
    -- the end was trimmed, so that it is no blank
    obtain ⟨t, e, hend, he⟩ : ∃ t e, u ++ c :: ending v = t ++ [e] ∧ Text.isBlank e = false := by
      rw [ending, ← Text.trimEnd_append_cons hc]
      refine Text.exists_trimEnd_eq_concat ?_
      rw [Text.trimEnd_append_cons hc]
      simp
    rw [hend] at hbody htarget
    rw [Directive.ofText_of_body he hbody, htarget, Directive.reading]
  exact ⟨hread, hread ▸ d.reading_eq_imports_iff⟩

/-- A word as an identifier. -/
def identifierOf (word : String) (h : IsName word) : Identifier := ⟨word, h⟩

/-- The name `N.M`. -/
def dottedName : Written .name :=
  .dot (.identifier (identifierOf "N" (by decide)) .nil) (identifierOf "M" (by decide)) .nil

theorem firstOf_dottedName : (firstOf dottedName).1 ≠ "static" := by
  rw [dottedName, firstOf, firstOf, identifierOf]
  decide

/-- The blanks that a text consists of. -/
def Gap.ofText (s : String) (h : s.toList ≠ [] ∧ s.toList.all Text.isBlank = true) : Gap :=
  ⟨s.toList, h.1, List.all_eq_true.1 h.2⟩

/-- A directive for all files with spaces behind its keywords, among other blanks. -/
def spacedDirective : Directive where
  globalGap := some (.ofText " \n" (by decide))
  usingGap := .ofText "\t" (by decide)
  imported := .namespaceMembers true dottedName firstOf_dottedName

theorem ofText_directive_spacedDirective :
    spacedDirective.Writes "global \nusing\tglobal :: N .M\n;".toList ∧
      ofText "global \nusing\tglobal :: N .M\n;" = ⟨some "N.M", true⟩ := by
  have hwrites : spacedDirective.Writes "global \nusing\tglobal :: N .M\n;".toList :=
    ⟨"global :: N .M\n;".toList, by decide, Spaced.of_cuts (by decide +kernel)⟩
  refine ⟨hwrites, ?_⟩
  rw [(ofText_directive hwrites).2.2 (by decide)]
  decide +kernel

/-- A directive for all files with a tab behind `global`. -/
def tabbedGlobal : Directive where
  globalGap := some (.ofText "\t" (by decide))
  usingGap := .ofText " " (by decide)
  imported := .namespaceMembers false dottedName firstOf_dottedName

/-- A directive with a tab behind `static`. -/
def tabbedStatic : Directive where
  globalGap := none
  usingGap := .ofText " " (by decide)
  imported := .staticMembers (.ofText "\t" (by decide)) false dottedName

/-- With a tab behind `global` nothing is imported, and with a tab behind `static` a namespace is
imported that nobody wrote. -/
theorem keywords_misread_tabbed :
    tabbedGlobal.Writes "global\tusing N.M;".toList ∧ tabbedGlobal.imports = ⟨some "N.M", true⟩ ∧
      ofText "global\tusing N.M;" = ⟨none, false⟩ ∧
      tabbedStatic.Writes "using static\tN.M;".toList ∧ tabbedStatic.imports = ⟨none, false⟩ ∧
      ofText "using static\tN.M;" = ⟨some "staticN.M", false⟩ := by
  refine ⟨⟨"N.M;".toList, by decide, Spaced.of_cuts (by decide +kernel)⟩, by decide +kernel,
    by decide +kernel, ⟨"static\tN.M;".toList, by decide, "N.M;".toList, by decide,
      Spaced.of_cuts (by decide +kernel)⟩, by decide +kernel, by decide +kernel⟩

end Using

end Disposal
