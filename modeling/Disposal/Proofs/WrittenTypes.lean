import Disposal.Proofs.Brackets
import Disposal.Proofs.Program
import Mathlib.Data.List.TakeWhile

/-!
# Written types

The types of the language as they are written: dotted names with type arguments, arrays, tuples,
pointers and what can be made of these.  A type is looked up by the dotted name without the type
arguments, and that is what its text is reduced to, unless an array or a pointer stands somewhere
in the arguments: then the text is taken for an array or a pointer itself.

* `TypeName.Written` is the grammar and `Written.tokens` are the tokens of a written type;
* `Spaced`: a text consists of some tokens, with any blanks around them;
* `Written.balanced`: angle brackets come in pairs, and `Written.outside_name`: outside of them a
  named type is its dotted name;
* `Written.mem_chars_iff`: where the characters of arrays and pointers come from;
* `TypeName.normalize?_written` is the name that a named type is looked up by.
-/

namespace Disposal.TypeName

open Program

/-! ### The grammar -/

/-- An identifier. -/
def Identifier : Type := { s : String // IsName s }

/-- The parts of a written type. -/
inductive Part where
  | name
  | type
  | list

/-- A dotted name with type arguments, a type, or a list of types.  One definition for the three of
them makes one induction. -/
inductive Written : Part → Type where
  /-- An identifier with its type arguments; it has none if the list is empty. -/
  | identifier (id : Identifier) (arguments : Written .list) : Written .name
  /-- One more identifier behind a dot. -/
  | dot (outer : Written .name) (id : Identifier) (arguments : Written .list) : Written .name
  /-- A named type, perhaps behind a qualifier as in `global::A`. -/
  | named (qualifier : Option Identifier) (name : Written .name) : Written .type
  | nullable (inner : Written .type) : Written .type
  | array (element : Written .type) (commas : Nat) : Written .type
  | pointer (target : Written .type) : Written .type
  | functionPointer (signature : Written .list) : Written .type
  | tuple (elements : Written .list) : Written .type
  | nil : Written .list
  /-- A first type, with a label as the elements of tuples may have. -/
  | cons (first : Written .type) (label : Option Identifier) (rest : Written .list) : Written .list

namespace Written

/-- Tokens between angle brackets, if there are any. -/
def angles (ts : List String) : List String := if ts = [] then [] else "<" :: ts ++ [">"]

/-- Tokens behind a comma, if there are any. -/
def behindComma (ts : List String) : List String := if ts = [] then [] else "," :: ts

/-- The tokens of a qualifier in front of a name. -/
def qualifierTokens : Option Identifier → List String
  | none => []
  | some id => [id.1, "::"]

/-- The tokens of a part of a written type. -/
def tokens {p : Part} : Written p → List String
  | .identifier id arguments => id.1 :: angles arguments.tokens
  | .dot outer id arguments => outer.tokens ++ "." :: id.1 :: angles arguments.tokens
  | .named qualifier name => qualifierTokens qualifier ++ name.tokens
  | .nullable inner => inner.tokens ++ ["?"]
  | .array element commas => element.tokens ++ "[" :: List.replicate commas "," ++ ["]"]
  | .pointer target => target.tokens ++ ["*"]
  | .functionPointer signature => "delegate" :: "*" :: "<" :: signature.tokens ++ [">"]
  | .tuple elements => "(" :: elements.tokens ++ [")"]
  | .nil => []
  | .cons first label rest =>
    first.tokens ++ (label.toList.map fun id => id.1) ++ behindComma rest.tokens

/-- The identifiers of a name with dots between them, without the type arguments.  Only names have
any. -/
def dotted {p : Part} : Written p → String
  | .identifier id _ => id.1
  | .dot outer id _ => outer.dotted ++ "." ++ id.1
  | _ => ""

/-- A name without its type arguments.  What is not a name stays as it is. -/
def bareName {p : Part} : Written p → Written p
  | .identifier id _ => .identifier id .nil
  | .dot outer id _ => .dot outer.bareName id .nil
  | t => t

/-- A named type, perhaps behind `global::`, perhaps with a question mark behind it. -/
def reference (isGlobal nullable : Bool) (n : Written .name) : Written .type :=
  let type := named (if isGlobal then some ⟨"global", by decide⟩ else none) n
  if nullable then .nullable type else type

theorem tokens_reference (isGlobal nullable : Bool) (n : Written .name) :
    (n.reference isGlobal nullable).tokens =
      (if isGlobal then ["global", "::"] else []) ++ n.tokens ++
        (if nullable then ["?"] else []) := by
  cases isGlobal <;> cases nullable <;> simp [reference, tokens, qualifierTokens]

/-- Whether an array or a pointer stands somewhere in a part of a written type. -/
def hasArray {p : Part} : Written p → Bool
  | .identifier _ arguments => arguments.hasArray
  | .dot outer _ arguments => outer.hasArray || arguments.hasArray
  | .named _ name => name.hasArray
  | .nullable inner => inner.hasArray
  | .array _ _ => true
  | .pointer _ => true
  | .functionPointer _ => true
  | .tuple elements => elements.hasArray
  | .nil => false
  | .cons first _ rest => first.hasArray || rest.hasArray

end Written

/-- A text consists of some tokens, with blanks before, between and behind them or none. -/
inductive Spaced : List String → List Char → Prop where
  | nil {blanks : List Char} (blank : ∀ c ∈ blanks, Text.isBlank c = true) : Spaced [] blanks
  | cons {blanks s : List Char} {token : String} {ts : List String}
      (blank : ∀ c ∈ blanks, Text.isBlank c = true) (rest : Spaced ts s) :
      Spaced (token :: ts) (blanks ++ token.toList ++ s)

/-- Take some tokens off a text, with the blanks before each, and see whether only blanks are
left. -/
def cuts : List String → List Char → Bool
  | [], s => s.all Text.isBlank
  | token :: ts, s =>
    match token.toList.isPrefixOf? (s.dropWhile Text.isBlank) with
    | some rest => cuts ts rest
    | none => false

theorem Spaced.of_cuts {ts : List String} {s : List Char} (h : cuts ts s = true) : Spaced ts s := by
  fun_induction cuts ts s with
  | case1 s => exact .nil (List.all_eq_true.1 h)
  | case2 token ts s rest hrest ih =>
    rw [← List.takeWhile_append_dropWhile (p := Text.isBlank) (l := s),
      ← List.isPrefixOf?_eq_some_iff_append_eq.1 hrest, ← List.append_assoc]
    exact .cons (fun c hc => List.mem_takeWhile_imp hc) (ih h)
  | case3 => cases h

/-! ### Characters -/

/-- The characters of some tokens. -/
def chars (ts : List String) : List Char := ts.flatMap String.toList

@[simp] theorem chars_nil : chars [] = [] := rfl

@[simp] theorem chars_cons (token : String) (ts : List String) :
    chars (token :: ts) = token.toList ++ chars ts := rfl

@[simp] theorem chars_append (ts us : List String) : chars (ts ++ us) = chars ts ++ chars us :=
  List.flatMap_append ..

theorem toNat_lt_of_isAlphanum {c : Char} (h : c.isAlphanum = true) : c.toNat < 128 := by
  have hle : c.val ≤ 'Z'.val ∨ c.val ≤ 'z'.val ∨ c.val ≤ '9'.val := by
    rcases Bool.or_eq_true_iff.1 h with halpha | hdigit
    · rcases Bool.or_eq_true_iff.1 halpha with hupper | hlower
      · exact .inl (of_decide_eq_true hupper).2
      · exact .inr (.inl (of_decide_eq_true (Bool.and_eq_true_iff.1 hlower).2))
    · exact .inr (.inr (of_decide_eq_true (Bool.and_eq_true_iff.1 hdigit).2))
  simp only [UInt32.le_iff_toNat_le] at hle
  have hbounds : 'Z'.val.toNat < 128 ∧ 'z'.val.toNat < 128 ∧ '9'.val.toNat < 128 := by decide
  have hval : c.toNat = c.val.toNat := rfl
  omega

theorem isBlank_of_isNameChar {c : Char} (h : isNameChar c = true) : Text.isBlank c = false := by
  by_cases hn : 128 ≤ c.toNat
  · -- outside of ASCII, names have all characters that are not blank
    have hascii : (c.isAlphanum || c == '_' || c == '@' || c == '\\') = false := by
      by_contra hne
      simp only [Bool.not_eq_false, Bool.or_eq_true, beq_iff_eq] at hne
      rcases hne with ((hne | rfl) | rfl) | rfl
      · exact absurd (toNat_lt_of_isAlphanum hne) (by omega)
      all_goals revert hn; decide
    simpa [isNameChar, hascii, hn] using h
  · have hascii : ∀ n < 128, isNameChar (Char.ofNat n) = true →
        Text.isBlank (Char.ofNat n) = false := by decide
    have hc := hascii c.toNat (by omega)
    rw [Char.ofNat_toNat] at hc
    exact hc h

/-- A spaced text without its blanks consists of the characters of its tokens. -/
theorem Spaced.compactChars_eq {ts : List String} {s : List Char} (h : Spaced ts s)
    (hts : ∀ c ∈ chars ts, Text.isBlank c = false) : Text.compactChars s = chars ts := by
  have hblanks : ∀ {blanks : List Char}, (∀ c ∈ blanks, Text.isBlank c = true) →
      Text.compactChars blanks = [] := fun h => List.filter_eq_nil_iff.2 (by simpa using h)
  induction h with
  | nil blank => exact hblanks blank
  | @cons blanks s token ts blank _ ih =>
    rw [chars_cons, List.forall_mem_append] at hts
    rw [Text.compactChars_append, Text.compactChars_append, hblanks blank, ih hts.2,
      Text.compactChars, List.filter_eq_self.2 (by simpa using hts.1)]
    rfl

namespace Written

theorem chars_angles (ts : List String) :
    chars (angles ts) = if ts = [] then [] else '<' :: chars ts ++ ['>'] := by
  unfold angles
  split_ifs <;> simp

theorem mem_chars_angles {ts : List String} {c : Char} (h : c ∈ chars (angles ts)) :
    c = '<' ∨ c = '>' ∨ c ∈ chars ts := by
  rw [chars_angles] at h
  split_ifs at h
  · cases h
  · simpa [or_comm, or_assoc] using h

/-- The characters that stand between the names of a type. -/
def punctuation : List Char := [':', '.', '?', ',', '(', ')', '<', '>']

/-- The characters of arrays and pointers. -/
def arrayMarks : List Char := ['[', ']', '*']

/-- What a character of a part of a written type can be: one of a name, punctuation, or a mark of
an array or a pointer if there is one. -/
def Belongs (hasArray : Bool) (c : Char) : Prop :=
  isNameChar c = true ∨ c ∈ punctuation ∨ (hasArray = true ∧ c ∈ arrayMarks)

theorem Belongs.mono {a b : Bool} {c : Char} (h : Belongs a c) (hab : a = true → b = true) :
    Belongs b c :=
  h.imp_right fun h => h.imp_right fun ⟨ha, hc⟩ => ⟨hab ha, hc⟩

theorem belongs_of_name {a : Bool} {c : Char} (id : Identifier) (hc : c ∈ id.1.toList) :
    Belongs a c :=
  .inl (id.2.2 c hc)

theorem belongs_of_angles {a : Bool} {c : Char} {ts : List String}
    (hts : c ∈ chars ts → Belongs a c) (hc : c ∈ chars (angles ts)) : Belongs a c := by
  rcases mem_chars_angles hc with rfl | rfl | hc
  · exact .inr (.inl (by decide))
  · exact .inr (.inl (by decide))
  · exact hts hc

theorem belongs_of_punctuation {a : Bool} {c : Char} {token : String}
    (htoken : token.toList.all punctuation.contains = true) (hc : c ∈ token.toList) :
    Belongs a c :=
  .inr (.inl (by simpa using List.all_eq_true.1 htoken c hc))

theorem belongs_of_mark {c : Char} {token : String}
    (htoken : token.toList.all arrayMarks.contains = true) (hc : c ∈ token.toList) :
    Belongs true c :=
  .inr (.inr ⟨rfl, by simpa using List.all_eq_true.1 htoken c hc⟩)

theorem mem_chars_commas {n : Nat} {c : Char} (hc : c ∈ chars (List.replicate n ",")) :
    c ∈ ",".toList := by
  obtain ⟨token, htoken, hc⟩ := List.mem_flatMap.1 hc
  rwa [List.eq_of_mem_replicate htoken] at hc

theorem belongs_of_behindComma {a : Bool} {c : Char} {ts : List String}
    (hts : c ∈ chars ts → Belongs a c) (hc : c ∈ chars (behindComma ts)) : Belongs a c := by
  unfold behindComma at hc
  split_ifs at hc
  · cases hc
  · rw [chars_cons, List.mem_append] at hc
    exact hc.elim (belongs_of_punctuation (by decide)) hts

/-- **Where characters come from**: they belong to names, to punctuation, or to an array or a
pointer. -/
theorem belongs_of_mem_chars {p : Part} (t : Written p) {c : Char} (hc : c ∈ chars t.tokens) :
    Belongs t.hasArray c := by
  induction t with
  | identifier id arguments ih =>
    rw [tokens, chars_cons, List.mem_append] at hc
    exact hc.elim (belongs_of_name id) (belongs_of_angles ih)
  | dot outer id arguments ihouter ih =>
    simp only [tokens, chars_append, chars_cons, List.mem_append] at hc
    rcases hc with hc | hc | hc | hc
    · exact (ihouter hc).mono (by simp +contextual [hasArray])
    · exact belongs_of_punctuation (by decide) hc
    · exact belongs_of_name id hc
    · exact belongs_of_angles (fun hc => (ih hc).mono (by simp +contextual [hasArray])) hc
  | named qualifier name ih =>
    simp only [tokens, chars_append, List.mem_append] at hc
    refine hc.elim (fun hc => ?_) ih
    cases qualifier with
    | none => cases hc
    | some id =>
      simp only [qualifierTokens, chars_cons, chars_nil, List.append_nil, List.mem_append] at hc
      exact hc.elim (belongs_of_name id) (belongs_of_punctuation (by decide))
  | nullable inner ih =>
    simp only [tokens, chars_append, chars_cons, chars_nil, List.append_nil, List.mem_append] at hc
    exact hc.elim ih (belongs_of_punctuation (by decide))
  | array element commas ih =>
    simp only [tokens, chars_append, chars_cons, chars_nil, List.append_nil, List.mem_append] at hc
    rcases hc with (hc | hc | hc) | hc
    · exact (ih hc).mono fun _ => rfl
    · exact belongs_of_mark (by decide) hc
    · exact belongs_of_punctuation (by decide) (mem_chars_commas hc)
    · exact belongs_of_mark (by decide) hc
  | pointer target ih =>
    simp only [tokens, chars_append, chars_cons, chars_nil, List.append_nil, List.mem_append] at hc
    exact hc.elim (fun hc => (ih hc).mono fun _ => rfl) (belongs_of_mark (by decide))
  | functionPointer signature ih =>
    simp only [tokens, chars_append, chars_cons, chars_nil, List.append_nil, List.mem_append] at hc
    have hdelegate : "delegate".toList.all isNameChar = true := by decide
    rcases hc with (hc | hc | hc | hc) | hc
    · exact .inl (List.all_eq_true.1 hdelegate c hc)
    · exact belongs_of_mark (by decide) hc
    · exact belongs_of_punctuation (by decide) hc
    · exact (ih hc).mono fun _ => rfl
    · exact belongs_of_punctuation (by decide) hc
  | tuple elements ih =>
    simp only [tokens, chars_append, chars_cons, chars_nil, List.append_nil, List.mem_append] at hc
    rcases hc with (hc | hc) | hc
    · exact belongs_of_punctuation (by decide) hc
    · exact ih hc
    · exact belongs_of_punctuation (by decide) hc
  | nil => cases hc
  | cons first label rest ihfirst ihrest =>
    simp only [tokens, chars_append, List.mem_append] at hc
    rcases hc with (hc | hc) | hc
    · exact (ihfirst hc).mono (by simp +contextual [hasArray])
    · cases label with
      | none => cases hc
      | some id => exact belongs_of_name id (by simpa using hc)
    · exact belongs_of_behindComma (fun hc => (ihrest hc).mono (by simp +contextual [hasArray])) hc

theorem isBlank_of_mem_chars {p : Part} (t : Written p) {c : Char} (hc : c ∈ chars t.tokens) :
    Text.isBlank c = false := by
  have hother : (punctuation ++ arrayMarks).all (!Text.isBlank ·) = true := by decide
  simp only [List.all_eq_true, Bool.not_eq_true'] at hother
  rcases belongs_of_mem_chars t hc with hname | hc | ⟨-, hc⟩
  · exact isBlank_of_isNameChar hname
  · exact hother c (List.mem_append_left _ hc)
  · exact hother c (List.mem_append_right _ hc)

theorem chars_subset_angles (ts : List String) : chars ts ⊆ chars (angles ts) := by
  intro c hc
  rw [chars_angles]
  split_ifs with hts
  · rw [hts] at hc
    exact hc
  · simp [hc]

theorem chars_subset_behindComma (ts : List String) : chars ts ⊆ chars (behindComma ts) := by
  unfold behindComma
  split_ifs with hts
  · rw [hts]
    exact List.Subset.refl _
  · exact List.subset_append_right _ _

theorem mark_mem_chars {p : Part} (t : Written p) (h : t.hasArray = true) :
    '[' ∈ chars t.tokens ∨ '*' ∈ chars t.tokens := by
  -- what a part holds the whole holds
  have lift : ∀ {part whole : List Char}, part ⊆ whole → ('[' ∈ part ∨ '*' ∈ part) →
      '[' ∈ whole ∨ '*' ∈ whole := fun hsub h => h.imp (@hsub _) (@hsub _)
  induction t with
  | identifier id arguments ih =>
    refine lift ?_ (ih h)
    exact List.Subset.trans (chars_subset_angles _) (List.subset_append_right _ _)
  | dot outer id arguments ihouter ih =>
    rw [tokens, chars_append]
    rcases Bool.or_eq_true_iff.1 h with h | h
    · exact lift (List.subset_append_left _ _) (ihouter h)
    · refine lift ?_ (ih h)
      rw [chars_cons, chars_cons, ← List.append_assoc, ← List.append_assoc]
      exact List.Subset.trans (chars_subset_angles _) (List.subset_append_right _ _)
  | named qualifier name ih =>
    rw [tokens, chars_append]
    exact lift (List.subset_append_right _ _) (ih h)
  | nullable inner ih =>
    rw [tokens, chars_append]
    exact lift (List.subset_append_left _ _) (ih h)
  | array element commas ih => exact .inl (by simp [tokens])
  | pointer target ih => exact .inr (by simp [tokens])
  | functionPointer signature ih => exact .inr (by simp [tokens])
  | tuple elements ih =>
    refine lift ?_ (ih h)
    rw [tokens, chars_append, chars_cons, List.append_assoc]
    exact List.Subset.trans (List.subset_append_left _ _) (List.subset_append_right _ _)
  | nil => cases h
  | cons first label rest ihfirst ihrest =>
    rw [tokens, chars_append, chars_append]
    rcases Bool.or_eq_true_iff.1 h with h | h
    · refine lift ?_ (ihfirst h)
      rw [List.append_assoc]
      exact List.subset_append_left _ _
    · exact lift (List.Subset.trans (chars_subset_behindComma _) (List.subset_append_right _ _))
        (ihrest h)

/-! ### Brackets -/

theorem noBrackets_of_isNameChar {s : List Char} (h : ∀ c ∈ s, isNameChar c = true) :
    NoBrackets s := by
  constructor
  · intro hc
    exact absurd (h _ hc) (by decide)
  · intro hc
    exact absurd (h _ hc) (by decide)

theorem noBrackets_identifier (id : Identifier) : NoBrackets id.1.toList :=
  noBrackets_of_isNameChar id.2.2

theorem balanced_angles {ts : List String} (h : Balanced (chars ts)) :
    Balanced (chars (angles ts)) := by
  rw [chars_angles]
  split_ifs
  · exact .nil
  · exact h.pair

theorem outside_angles {ts : List String} (h : Balanced (chars ts)) (rest : List Char) :
    outside 0 (chars (angles ts) ++ rest) = outside 0 rest := by
  rw [chars_angles]
  split_ifs
  · rfl
  · rw [List.append_assoc, List.singleton_append, h.outside_pair]

theorem balanced_behindComma {ts : List String} (h : Balanced (chars ts)) :
    Balanced (chars (behindComma ts)) := by
  have hcomma : NoBrackets ",".toList := by decide
  unfold behindComma
  split_ifs
  · exact .nil
  · exact hcomma.balanced.append h

/-- **The angle brackets of a written type** come in pairs. -/
theorem balanced_chars {p : Part} (t : Written p) : Balanced (chars t.tokens) := by
  induction t with
  | identifier id arguments ih =>
    exact (noBrackets_identifier id).balanced.append (balanced_angles ih)
  | dot outer id arguments ihouter ih =>
    simp only [tokens, chars_append, chars_cons]
    exact ihouter.append ((NoBrackets.balanced (by decide)).append
      ((noBrackets_identifier id).balanced.append (balanced_angles ih)))
  | named qualifier name ih =>
    rw [tokens, chars_append]
    refine Balanced.append ?_ ih
    cases qualifier with
    | none => exact .nil
    | some id => exact (noBrackets_identifier id).balanced.append (NoBrackets.balanced (by decide))
  | nullable inner ih =>
    rw [tokens, chars_append]
    exact ih.append (NoBrackets.balanced (by decide))
  | array element commas ih =>
    have hcommas : NoBrackets (chars (List.replicate commas ",")) :=
      ⟨fun h => absurd (mem_chars_commas h) (by decide),
        fun h => absurd (mem_chars_commas h) (by decide)⟩
    simp only [tokens, chars_append, chars_cons]
    exact (ih.append ((NoBrackets.balanced (by decide)).append hcommas.balanced)).append
      (NoBrackets.balanced (by decide))
  | pointer target ih =>
    rw [tokens, chars_append]
    exact ih.append (NoBrackets.balanced (by decide))
  | functionPointer signature ih =>
    have hpair : chars (functionPointer signature).tokens =
        "delegate".toList ++ ("*".toList ++ ('<' :: chars signature.tokens ++ ['>'])) := by
      simp [tokens]
    rw [hpair]
    exact (NoBrackets.balanced (by decide)).append
      ((NoBrackets.balanced (by decide)).append ih.pair)
  | tuple elements ih =>
    rw [tokens, chars_append, chars_cons]
    exact ((NoBrackets.balanced (by decide)).append ih).append (NoBrackets.balanced (by decide))
  | nil => exact .nil
  | cons first label rest ihfirst ihrest =>
    rw [tokens, chars_append, chars_append]
    refine (ihfirst.append ?_).append (balanced_behindComma ihrest)
    cases label with
    | none => exact .nil
    | some id =>
      have hid : chars ((some id).toList.map fun id => id.1) = id.1.toList := by simp
      rw [hid]
      exact (noBrackets_identifier id).balanced

/-- **Outside of all brackets** a name with type arguments is its identifiers and dots. -/
theorem outside_name (rest : List Char) : (n : Written .name) →
    outside 0 (chars n.tokens ++ rest) = (outside 0 rest).map (n.dotted.toList ++ ·)
  | .identifier id arguments => by
    rw [tokens, chars_cons, List.append_assoc, outside_zero_append (noBrackets_identifier id),
      outside_angles (balanced_chars arguments), dotted]
  | .dot outer id arguments => by
    have hdot : NoBrackets ".".toList := by decide
    rw [tokens, chars_append, List.append_assoc, outside_name _ outer, chars_cons, chars_cons,
      List.append_assoc, List.append_assoc, outside_zero_append hdot,
      outside_zero_append (noBrackets_identifier id), outside_angles (balanced_chars arguments),
      Option.map_map, Option.map_map]
    simp [dotted, Function.comp_def]

/-! ### Where a name starts and ends -/

/-- A name starts with an identifier, and what follows starts with a dot or a bracket. -/
theorem chars_eq_append : (n : Written .name) → ∃ (id : Identifier) (rest : List Char),
    chars n.tokens = id.1.toList ++ rest ∧ ∀ c ∈ rest.head?, c ∈ ['.', '<']
  | .identifier id arguments => by
    refine ⟨id, chars (angles arguments.tokens), rfl, fun c hc => ?_⟩
    rw [chars_angles] at hc
    split_ifs at hc
    · cases hc
    · rw [← Option.some.inj hc]
      decide
  | .dot outer id arguments => by
    obtain ⟨first, rest, houter, hrest⟩ := chars_eq_append outer
    refine ⟨first, rest ++ chars ("." :: id.1 :: angles arguments.tokens), ?_, fun c hc => ?_⟩
    · rw [tokens, chars_append, houter, List.append_assoc]
    · cases rest with
      | nil =>
        rw [← Option.some.inj hc]
        decide
      | cons d rest => exact hrest c hc

theorem chars_eq_concat (n : Written .name) : ∃ (front : List Char) (c : Char),
    chars n.tokens = front ++ [c] ∧ c ≠ '?' := by
  have key : ∀ (front : List Char) (id : Identifier) (ts : List String),
      ∃ (start : List Char) (c : Char),
        front ++ (id.1.toList ++ chars (angles ts)) = start ++ [c] ∧ c ≠ '?' := by
    intro front id ts
    rw [chars_angles]
    split_ifs
    · have hid : id.1.toList ≠ [] := by simpa using id.2.1
      obtain ⟨start, c, hc⟩ := (List.eq_nil_or_concat id.1.toList).resolve_left hid
      refine ⟨front ++ start, c, by simp [hc], ?_⟩
      rintro rfl
      have hname := id.2.2 '?' (by simp [hc])
      revert hname
      decide
    · exact ⟨front ++ (id.1.toList ++ '<' :: chars ts), '>', by simp, by decide⟩
  cases n with
  | identifier id arguments => exact key [] id arguments.tokens
  | dot outer id arguments =>
    simp only [tokens, chars_append, chars_cons, ← List.append_assoc]
    have hdot := key (chars outer.tokens ++ ".".toList) id arguments.tokens
    simpa only [← List.append_assoc] using hdot

end Written

/-! ### Reducing a text to a name -/

/-- A name does not start with `global::`, whatever identifier it starts with. -/
theorem not_isPrefix_chars (n : Written .name) {s : List Char} (hs : ∀ c ∈ s.head?, c = '?') :
    ¬ "global::".toList <+: chars n.tokens ++ s := by
  rintro ⟨u, hu⟩
  obtain ⟨id, rest, hchars, hrest⟩ := n.chars_eq_append
  have hsplit : "global::".toList = "global".toList ++ [':', ':'] := by decide
  have hglobal : "global".toList.all isNameChar = true := by decide
  have hcolon : isNameChar ':' = false := by decide
  -- behind the characters of the identifier there is no colon
  have hdrop := congrArg (List.dropWhile isNameChar) hu
  rw [hchars, List.append_assoc, List.dropWhile_append_of_pos id.2.2, hsplit, List.append_assoc,
    List.dropWhile_append_of_pos (List.all_eq_true.1 hglobal), List.cons_append,
    List.dropWhile_cons_of_neg (by simp [hcolon])] at hdrop
  have hhead : ∀ c ∈ (rest ++ s).head?, c ∈ ['.', '<', '?'] := by
    cases rest with
    | nil =>
      intro c hc
      rw [hs c hc]
      decide
    | cons d rest =>
      intro c hc
      exact (List.mem_append_left ['?'] (hrest c hc) :)
  cases hbehind : rest ++ s with
  | nil =>
    rw [hbehind] at hdrop
    cases hdrop
  | cons c t =>
    have hstop : ['.', '<', '?'].all (fun c => !isNameChar c && ':' != c) = true := by decide
    obtain ⟨hname, hne⟩ : isNameChar c = false ∧ ':' ≠ c := by
      simpa using List.all_eq_true.1 hstop c (hhead c (by rw [hbehind]; rfl))
    rw [hbehind, List.dropWhile_cons_of_neg (by simp [hname])] at hdrop
    exact hne (List.cons.inj hdrop).1

theorem dropGlobal_reference (isGlobal nullable : Bool) (n : Written .name) :
    dropGlobal (chars (n.reference isGlobal nullable).tokens) =
      chars n.tokens ++ chars (if nullable then ["?"] else []) := by
  have hmark : ∀ c ∈ (chars (if nullable then ["?"] else [])).head?, c = '?' := by
    cases nullable <;> simp [chars]
  rw [n.tokens_reference, chars_append, chars_append]
  cases isGlobal with
  | false => exact dropGlobal_eq_self (not_isPrefix_chars n hmark)
  | true =>
    rw [List.append_assoc]
    exact dropGlobal_append _

theorem bare_reference {s : List Char} {isGlobal nullable : Bool} {n : Written .name}
    (h : Text.compactChars s = chars (n.reference isGlobal nullable).tokens) :
    bare s = chars n.tokens := by
  obtain ⟨front, c, hfront, hc⟩ := n.chars_eq_concat
  have htrim : Text.trimEnd (· = '?') (front ++ [c]) = front ++ [c] :=
    List.rdropWhile_concat_neg _ _ _ (by simpa using hc)
  rw [bare, h, dropGlobal_reference, hfront]
  cases nullable with
  | false =>
    rw [chars]
    simpa using htrim
  | true =>
    have hquestion : chars (if true = true then ["?"] else []) = ['?'] := by decide
    rw [hquestion]
    exact (List.rdropWhile_concat_pos _ _ _ (by decide)).trans htrim

/-- A name is taken for an array, a pointer or a tuple exactly if there is an array or a pointer
among its type arguments. -/
theorem isComposite_chars (n : Written .name) : isComposite (chars n.tokens) = n.hasArray := by
  obtain ⟨id, rest, hchars, -⟩ := n.chars_eq_append
  have hid : id.1.toList ≠ [] := by simpa using id.2.1
  obtain ⟨c, cs, hcs⟩ := List.exists_cons_of_ne_nil hid
  have hc : isNameChar c = true := id.2.2 c (by simp [hcs])
  have hparen : c ≠ '(' := by
    rintro rfl
    revert hc
    decide
  have hstart : ((chars n.tokens).isEmpty || (chars n.tokens).head? == some '(') = false := by
    rw [hchars, hcs]
    simpa using hparen
  rw [isComposite, hstart, Bool.false_or, Bool.eq_iff_iff, Bool.or_eq_true,
    List.contains_iff_mem, List.contains_iff_mem]
  refine ⟨fun h => ?_, n.mark_mem_chars⟩
  have hmark : ['[', '*'].all (fun c => !isNameChar c && !Written.punctuation.contains c) = true :=
    by decide
  obtain ⟨c, hc, hmem⟩ : ∃ c ∈ ['[', '*'], c ∈ chars n.tokens := by simpa using h
  obtain ⟨hname, hpunctuation⟩ : isNameChar c = false ∧ c ∉ Written.punctuation := by
    simpa using List.all_eq_true.1 hmark c hc
  rcases n.belongs_of_mem_chars hmem with h | h | ⟨harray, -⟩
  · rw [h] at hname
    cases hname
  · exact absurd h hpunctuation
  · exact harray

theorem Written.outside_chars (n : Written .name) :
    outside 0 (chars n.tokens) = some n.dotted.toList := by
  rw [← List.append_nil (chars n.tokens), n.outside_name]
  simp [outside]

/-- A named type is reduced to its identifiers and dots, unless it holds an array or a pointer. -/
theorem normalize?_of_compact {written : String} {isGlobal nullable : Bool} {n : Written .name}
    (h : Text.compactChars written.toList = chars (n.reference isGlobal nullable).tokens) :
    normalize? written =
      if n.hasArray = true ∨ n.dotted ∈ predefined then none else some n.dotted := by
  simp only [normalize?, bare_reference h, isComposite_chars, eraseArguments_eq_outside,
    n.outside_chars, String.ofList_toList]
  cases n.hasArray <;> simp

/-! ### Names without type arguments -/

namespace Written

theorem dotted_bareName : (n : Written .name) → n.bareName.dotted = n.dotted
  | .identifier id _ => by rw [bareName, dotted, dotted]
  | .dot outer id _ => by rw [bareName, dotted, dotted, dotted_bareName outer]

theorem hasArray_bareName : (n : Written .name) → n.bareName.hasArray = false
  | .identifier id _ => by simp [bareName, hasArray]
  | .dot outer id _ => by simp [bareName, hasArray, hasArray_bareName outer]

theorem chars_bareName : (n : Written .name) → chars n.bareName.tokens = n.dotted.toList
  | .identifier id _ => by simp [bareName, tokens, angles, dotted]
  | .dot outer id _ => by simp [bareName, tokens, angles, dotted, chars_bareName outer]

end Written

/-- A dotted name, perhaps behind `global::`, is looked up by the name, if it is no predefined
type. -/
theorem normalize?_qualified (isGlobal : Bool) (n : Written .name) :
    normalize? ((if isGlobal then "global::" else "") ++ n.dotted) =
      if n.dotted ∈ predefined then none else some n.dotted := by
  have hchars : ((if isGlobal then "global::" else "") ++ n.dotted).toList =
      chars (n.bareName.reference isGlobal false).tokens := by
    rw [n.bareName.tokens_reference, chars_append, chars_append, n.chars_bareName]
    cases isGlobal <;> simp [chars]
  have hcompact : Text.compactChars ((if isGlobal then "global::" else "") ++ n.dotted).toList =
      chars (n.bareName.reference isGlobal false).tokens := by
    rw [hchars]
    exact List.filter_eq_self.2 fun c hc => by simp [Written.isBlank_of_mem_chars _ hc]
  rw [normalize?_of_compact hcompact, n.dotted_bareName, n.hasArray_bareName]
  simp

theorem normalize?_dotted (n : Written .name) :
    normalize? n.dotted = if n.dotted ∈ predefined then none else some n.dotted := by
  simpa using normalize?_qualified false n

/-- **A named type is looked up by its dotted name**, whatever type arguments it has and however it
is spaced, as long as there is no array and no pointer among the type arguments. -/
theorem normalize?_written {written : String} {isGlobal nullable : Bool} {n : Written .name}
    (h : Spaced (n.reference isGlobal nullable).tokens written.toList) :
    normalize? written = (if n.hasArray then none else normalize? n.dotted) ∧
      normalize? n.dotted = (if n.dotted ∈ predefined then none else some n.dotted) := by
  have hblank : ∀ c ∈ chars (n.reference isGlobal nullable).tokens, Text.isBlank c = false :=
    fun c hc => Written.isBlank_of_mem_chars _ hc
  refine ⟨?_, normalize?_dotted n⟩
  rw [normalize?_of_compact (h.compactChars_eq hblank), normalize?_dotted]
  cases n.hasArray <;> simp

/-- A generic type in a generic type, as in `A<(B b, C?)>.D`. -/
def pairsName : Written .name :=
  let simple (id : Identifier) : Written .type := .named none (.identifier id .nil)
  .dot (.identifier ⟨"A", by decide⟩ (.cons (.tuple (.cons (simple ⟨"B", by decide⟩)
    (some ⟨"b", by decide⟩) (.cons (.nullable (simple ⟨"C", by decide⟩)) none .nil))) none .nil))
    ⟨"D", by decide⟩ .nil

theorem normalize?_written_pairsName :
    Spaced (pairsName.reference true true).tokens " global:: A< (B b,\tC? )>\n.D ?".toList ∧
      normalize? " global:: A< (B b,\tC? )>\n.D ?" = some "A.D" := by
  have hspaced : Spaced (pairsName.reference true true).tokens
      " global:: A< (B b,\tC? )>\n.D ?".toList := .of_cuts (by decide +kernel)
  refine ⟨hspaced, ?_⟩
  obtain ⟨hwritten, hdotted⟩ := normalize?_written hspaced
  rw [hwritten, if_neg (by decide), hdotted]
  decide +kernel

/-- A list of arrays, as in `List<int[]>`. -/
def arraysName : Written .name :=
  .identifier ⟨"List", by decide⟩
    (.cons (.array (.named none (.identifier ⟨"int", by decide⟩ .nil)) 0) none .nil)

/-- A list of arrays is not looked up as a list. -/
theorem normalize?_arraysName :
    Spaced (arraysName.reference false false).tokens "List<int[]>".toList ∧
      arraysName.dotted = "List" ∧ normalize? "List" = some "List" ∧
      normalize? "List<int[]>" = none := by
  exact ⟨.of_cuts (by decide +kernel), by decide +kernel, by decide +kernel, by decide +kernel⟩

end Disposal.TypeName
