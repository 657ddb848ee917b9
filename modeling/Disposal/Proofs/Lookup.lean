import Disposal.Proofs.Reaching

/-!
# What a written name stands for

A name is looked up from the inside out: below the types and namespaces around it, below the
imported namespaces, and last as it is.  Here that is said of the qualified name of the declaration
the name is written in, and of what the symbol of that declaration shows.

* `IsDottedPrefix`: a text is another one or what stands in it before one of its dots;
* `Surroundings.Encloses` are the places around a declaration, and `Surroundings.encloses_iff`:
  these are the outer names that the scope holds;
* `Surroundings.pairwise_outerNames`: each of them starts with those behind it, so that the longest
  comes first;
* `Sources.Means` says what a name stands for, and `Sources.lookup?_eq_some`: this is what is found;
* `Sources.Shows` says what a symbol shows of a written type, and `Sources.shows_of_stands`: it
  shows what is found;
* `Sources.innermost_declaration_found` puts this together.

The places around a declaration are the dotted prefixes of its qualified name, if the names of types
have no dots.  The empty prefix is among them if the name starts with a dot, as it does below a
namespace whose name starts with one.
-/

namespace Disposal

open Declaration Reader

/-! ### Dotted prefixes -/

/-- A text is another one, or what stands in it before one of its dots. -/
def IsDottedPrefix (p q : String) : Prop := p = q ∨ ∃ rest, q = p ++ "." ++ rest

namespace Scope

theorem mem_dottedPrefixes {p s : List Char} :
    p ∈ dottedPrefixes s ↔ p = s ∨ ∃ rest, s = p ++ '.' :: rest := by
  induction s generalizing p with
  | nil => simp [dottedPrefixes]
  | cons c s ih =>
    have hlonger : p ∈ (dottedPrefixes s).map (c :: ·) ↔
        p = c :: s ∨ ∃ front rest, p = c :: front ∧ s = front ++ '.' :: rest := by
      simp only [List.mem_map, ih]
      constructor
      · rintro ⟨front, rfl | ⟨rest, rfl⟩, rfl⟩
        · exact .inl rfl
        · exact .inr ⟨front, rest, rfl, rfl⟩
      · rintro (rfl | ⟨front, rest, rfl, rfl⟩)
        · exact ⟨s, .inl rfl, rfl⟩
        · exact ⟨front, .inr ⟨rest, rfl⟩, rfl⟩
    cases p with
    | nil => by_cases hc : c = '.' <;> simp [dottedPrefixes, hc]
    | cons d front =>
      have hsame : d :: front ∈ dottedPrefixes (c :: s) ↔
          d :: front ∈ (dottedPrefixes s).map (c :: ·) := by
        rw [dottedPrefixes]
        split_ifs <;> simp
      rw [hsame, hlonger]
      constructor
      · rintro (h | ⟨_, rest, h, rfl⟩)
        · exact .inl h
        · cases h
          exact .inr ⟨rest, rfl⟩
      · rintro (h | ⟨rest, h⟩)
        · exact .inl h
        · cases h
          exact .inr ⟨front, rest, rfl, rfl⟩

/-- Every dotted prefix is a part of the longer ones. -/
theorem pairwise_dottedPrefixes (s : List Char) : (dottedPrefixes s).Pairwise (· <+: ·) := by
  induction s with
  | nil => exact List.pairwise_singleton _ _
  | cons c s ih =>
    have hlonger : ((dottedPrefixes s).map (c :: ·)).Pairwise (· <+: ·) :=
      List.pairwise_map.2 (ih.imp fun h => (List.prefix_cons_inj c).2 h)
    rw [dottedPrefixes]
    split_ifs
    · exact hlonger.cons fun p _ => List.nil_prefix
    · exact hlonger

end Scope

theorem isDottedPrefix_iff_mem {p q : String} :
    IsDottedPrefix p q ↔ p.toList ∈ Scope.dottedPrefixes q.toList := by
  rw [Scope.mem_dottedPrefixes, IsDottedPrefix]
  refine or_congr String.toList_inj.symm ⟨?_, ?_⟩
  · rintro ⟨rest, rfl⟩
    exact ⟨rest.toList, by simp⟩
  · rintro ⟨rest, h⟩
    refine ⟨String.ofList rest, String.toList_inj.1 ?_⟩
    simpa using h

instance (p q : String) : Decidable (IsDottedPrefix p q) :=
  decidable_of_iff _ isDottedPrefix_iff_mem.symm

theorem isDottedPrefix_joinName {p outer name : String} (hname : '.' ∉ name.toList) :
    IsDottedPrefix p (joinName outer name) ↔
      p = joinName outer name ∨ (outer ≠ "" ∧ IsDottedPrefix p outer) := by
  by_cases houter : outer = ""
  · have hself : joinName outer name = name := if_pos houter
    rw [hself, IsDottedPrefix]
    refine or_congr_right ⟨?_, fun h => absurd houter h.1⟩
    rintro ⟨rest, rfl⟩
    simp at hname
  · have hjoin : joinName outer name = outer ++ "." ++ name := if_neg houter
    rw [hjoin, IsDottedPrefix]
    refine or_congr_right ⟨?_, ?_⟩
    · rintro ⟨rest, h⟩
      refine ⟨houter, ?_⟩
      have hlists : outer.toList ++ '.' :: name.toList = p.toList ++ '.' :: rest.toList := by
        simpa using congrArg String.toList h
      rcases List.append_eq_append_iff.1 hlists with ⟨as, hp, hrest⟩ | ⟨bs, houter, hrest⟩
      · -- otherwise there would be a dot in the name
        cases as with
        | nil => exact .inl (String.toList_inj.1 (by simpa using hp))
        | cons a as =>
          rw [List.cons_append, List.cons.injEq] at hrest
          exact absurd (by simp [hrest.2]) hname
      · cases bs with
        | nil => exact .inl (String.toList_inj.1 (by simpa using houter.symm))
        | cons b bs =>
          rw [List.cons_append, List.cons.injEq] at hrest
          rw [← hrest.1] at houter
          exact isDottedPrefix_iff_mem.2 (Scope.mem_dottedPrefixes.2 (.inr ⟨bs, houter⟩))
    · rintro ⟨-, rfl | ⟨rest, rfl⟩⟩
      · exact ⟨name, rfl⟩
      · exact ⟨rest ++ "." ++ name, by simp [String.append_assoc]⟩

theorem IsDottedPrefix.trans {o p q : String} (h : IsDottedPrefix o p) (h' : IsDottedPrefix p q) :
    IsDottedPrefix o q := by
  rcases h with rfl | ⟨rest, rfl⟩
  · exact h'
  · rcases h' with rfl | ⟨more, rfl⟩
    · exact .inr ⟨rest, rfl⟩
    · exact .inr ⟨rest ++ "." ++ more, by simp only [String.append_assoc]⟩

theorem mem_enclosing {p ns : String} :
    p ∈ Scope.enclosing ns ↔ ns ≠ "" ∧ IsDottedPrefix p ns := by
  rw [isDottedPrefix_iff_mem, Scope.enclosing]
  split_ifs with hns
  · simp [hns]
  · simp only [List.mem_reverse, List.mem_map, ne_eq, hns, not_false_eq_true, true_and]
    constructor
    · rintro ⟨s, hs, rfl⟩
      simpa using hs
    · intro h
      exact ⟨p.toList, h, String.ofList_toList⟩

/-! ### The places around a declaration -/

theorem isDottedPrefix_joinNames_self {outer : String} (h : outer ≠ "") (names : List String) :
    IsDottedPrefix outer (joinNames outer names) := by
  induction names generalizing outer with
  | nil => exact .inl rfl
  | cons name names ih =>
    have hfirst : IsDottedPrefix outer (joinName outer name) := .inr ⟨name, if_neg h⟩
    exact hfirst.trans (ih (Sources.joinName_ne_empty h))

/-- The dotted prefixes of a name below others are these and the dotted prefixes of the outermost,
if there are no further dots. -/
theorem mem_namesBelow_of_isDottedPrefix {p outer : String} {names : List String}
    (hne : names ≠ []) (hdots : ∀ name ∈ names, '.' ∉ name.toList)
    (h : IsDottedPrefix p (joinNames outer names)) :
    p ∈ namesBelow outer names ∨ (outer ≠ "" ∧ IsDottedPrefix p outer) := by
  induction names generalizing outer with
  | nil => exact absurd rfl hne
  | cons name names ih =>
    have hname : IsDottedPrefix p (joinName outer name) →
        p = joinName outer name ∨ (outer ≠ "" ∧ IsDottedPrefix p outer) :=
      (isDottedPrefix_joinName (hdots name List.mem_cons_self)).1
    rw [namesBelow, List.mem_cons, or_assoc, or_left_comm]
    cases names with
    | nil => exact .inr (hname h)
    | cons next names =>
      rcases ih (List.cons_ne_nil _ _) (fun n hn => hdots n (List.mem_cons_of_mem _ hn)) h with
        h | ⟨-, h⟩
      · exact .inl h
      · exact .inr (hname h)

/-- The name of a type around others is a dotted prefix of theirs, unless it is empty. -/
theorem isDottedPrefix_of_mem_namesBelow {p outer : String} {names : List String}
    (hnamed : outer ≠ "" ∨ ∀ name ∈ names.head?, name ≠ "") (h : p ∈ namesBelow outer names) :
    IsDottedPrefix p (joinNames outer names) := by
  induction names generalizing outer with
  | nil => cases h
  | cons name names ih =>
    have hjoin : joinName outer name ≠ "" := by
      rw [Ne, joinName_eq_empty]
      rintro ⟨houter, hname⟩
      exact hnamed.elim (fun h => h houter) fun h => h name rfl hname
    rcases List.mem_cons.1 h with rfl | h
    · exact isDottedPrefix_joinNames_self hjoin names
    · exact ih (.inl hjoin) h

theorem prefix_joinName (outer name : String) : outer.toList <+: (joinName outer name).toList := by
  rw [joinName]
  split_ifs with h
  · simp [h]
  · simp [List.append_assoc]

theorem prefix_of_mem_namesBelow {outer q : String} {names : List String}
    (h : q ∈ namesBelow outer names) : outer.toList <+: q.toList := by
  induction names generalizing outer with
  | nil => cases h
  | cons name names ih =>
    rcases List.mem_cons.1 h with rfl | h
    · exact prefix_joinName outer name
    · exact (prefix_joinName outer name).trans (ih h)

theorem pairwise_namesBelow (outer : String) (names : List String) :
    (namesBelow outer names).Pairwise fun a b => a.toList <+: b.toList := by
  induction names generalizing outer with
  | nil => exact .nil
  | cons name names ih => exact (ih _).cons fun q hq => prefix_of_mem_namesBelow hq

theorem pairwise_enclosing (ns : String) :
    (Scope.enclosing ns).Pairwise fun a b => b.toList <+: a.toList := by
  rw [Scope.enclosing]
  split_ifs
  · exact .nil
  · rw [List.pairwise_reverse, List.pairwise_map]
    simpa using Scope.pairwise_dottedPrefixes ns.toList

/-- The outer names that a scope holds, innermost first. -/
def Scope.outerNames (scope : Scope) : List String :=
  scope.containers ++ enclosing scope.namespaceName

namespace Surroundings

variable {s : Surroundings} {p : String}

/-- The places around a declaration below which its names are looked up first: the dotted prefixes
of its qualified name, and the types around it and itself. -/
def Encloses (s : Surroundings) (p : String) : Prop :=
  IsDottedPrefix p s.qualifiedName ∨ p ∈ s.typeNames

theorem qualifiedName_eq (s : Surroundings) :
    s.qualifiedName = joinNames s.namespaceName s.types := joinNames_append ..

/-- The places around a declaration are the dotted prefixes of its qualified name alone, unless the
outermost type has no name and stands outside of all namespaces. -/
theorem encloses_iff_isDottedPrefix
    (hnamed : s.namespaceName ≠ "" ∨ ∀ name ∈ s.types.head?, name ≠ "") :
    s.Encloses p ↔ IsDottedPrefix p s.qualifiedName := by
  refine or_iff_left_of_imp fun h => ?_
  rw [qualifiedName_eq]
  exact isDottedPrefix_of_mem_namesBelow hnamed h

/-- **The outer names that a scope holds are the places around the declaration**, if the types
around it have no dots in their names. -/
theorem encloses_iff (hne : s.types ≠ []) (hdots : ∀ name ∈ s.types, '.' ∉ name.toList) :
    s.Encloses p ↔ p ∈ s.scope.outerNames := by
  have houter : p ∈ s.scope.outerNames ↔
      p ∈ s.typeNames ∨ (s.namespaceName ≠ "" ∧ IsDottedPrefix p s.namespaceName) := by
    rw [Scope.outerNames, List.mem_append, mem_enclosing, scope, List.mem_reverse]
  rw [houter, Encloses, qualifiedName_eq]
  constructor
  · rintro (h | h)
    · exact mem_namesBelow_of_isDottedPrefix hne hdots h
    · exact .inl h
  · rintro (h | ⟨hnamespace, h⟩)
    · exact .inr h
    · exact .inl (h.trans (isDottedPrefix_joinNames_self hnamespace s.types))

theorem pairwise_outerNames (s : Surroundings) :
    s.scope.outerNames.Pairwise fun a b => b.toList <+: a.toList := by
  rw [Scope.outerNames, List.pairwise_append]
  refine ⟨List.pairwise_reverse.2 (pairwise_namesBelow _ _), pairwise_enclosing _, ?_⟩
  intro q hq outer houter
  have hbelow := prefix_of_mem_namesBelow (List.mem_reverse.1 hq)
  obtain ⟨-, rfl | ⟨rest, hrest⟩⟩ := mem_enclosing.1 houter
  · exact hbelow
  · refine List.IsPrefix.trans ⟨'.' :: rest.toList, ?_⟩ hbelow
    have hrest : s.namespaceName = outer ++ "." ++ rest := hrest
    simp [hrest]

theorem types_ne_nil {source : Text.Bytes} {cs : List Node} {n : Node}
    (h : Stands source cs s n) : s.types ≠ [] := by
  induction h with
  | type type nests => exact nests.names_ne_nil
  | inBlock named enclosed inside ih => exact ih
  | inFile named inside ih => exact ih
  | behind rest ih => exact ih

end Surroundings

/-! ### What a name stands for -/

namespace Sources

variable {S : Sources} {s : Surroundings} {n : String}

/-- The name `n`, written in a declaration with these surroundings, stands for a known type: below
the longest name around the declaration below which there is one; if there is none, below the first
import, and then below the first import for all files, below which there is one; if there is none
either, the type that has the name itself. -/
inductive Means (S : Sources) (s : Surroundings) (n : String) : String → Prop where
  | around {p : String} (encloses : s.Encloses p) (known : S.known (p ++ "." ++ n) = true)
      (longest : ∀ o, s.Encloses o → S.known (o ++ "." ++ n) = true → o.length ≤ p.length) :
      Means S s n (p ++ "." ++ n)
  | imported {u : String} {before after : List String}
      (notAround : ∀ p, s.Encloses p → S.known (p ++ "." ++ n) = false)
      (split : s.imports ++ S.resolver.globalUsings = before ++ u :: after)
      (known : S.known (u ++ "." ++ n) = true)
      (first : ∀ v ∈ before, S.known (v ++ "." ++ n) = false) : Means S s n (u ++ "." ++ n)
  | alone (notAround : ∀ p, s.Encloses p → S.known (p ++ "." ++ n) = false)
      (notImported : ∀ u ∈ s.imports ++ S.resolver.globalUsings, S.known (u ++ "." ++ n) = false)
      (known : S.known n = true) : Means S s n n

/-- A list where every name starts with those behind it has the longest of some in front. -/
theorem prefix_of_find?_eq_some {names : List String} {test : String → Bool} {p o : String}
    (h : names.Pairwise fun a b => b.toList <+: a.toList) (hp : names.find? test = some p)
    (ho : o ∈ names) (htest : test o = true) : o.toList <+: p.toList := by
  obtain ⟨-, before, after, rfl, hbefore⟩ := List.find?_eq_some_iff_append.1 hp
  rw [List.pairwise_append] at h
  rcases List.mem_append.1 ho with ho | ho
  · have hnot := hbefore o ho
    rw [htest] at hnot
    cases hnot
  · rcases List.mem_cons.1 ho with rfl | ho
    · exact List.prefix_rfl
    · exact (List.pairwise_cons.1 h.2.1).1 o ho

theorem lookup?_scope (S : Sources) (s : Surroundings) (n : String) :
    s.scope.lookup? S.resolver.globalUsings S.known n =
      (((s.scope.outerNames.find? fun o => S.known (o ++ "." ++ n)).or
        ((s.imports ++ S.resolver.globalUsings).find? fun u => S.known (u ++ "." ++ n))).map
          fun o => o ++ "." ++ n).or (if S.known n then some n else none) := by
  rw [Scope.lookup?, Scope.candidates, ← Scope.outerNames, List.append_assoc, List.find?_append,
    List.find?_map, List.find?_append, List.find?_singleton]
  rfl

/-- **What is found is what the name stands for.** -/
theorem lookup?_eq_some (hne : s.types ≠ []) (hdots : ∀ name ∈ s.types, '.' ∉ name.toList)
    {y : String} :
    s.scope.lookup? S.resolver.globalUsings S.known n = some y ↔ S.Means s n y := by
  have hplaces : ∀ p, s.Encloses p ↔ p ∈ s.scope.outerNames :=
    fun p => Surroundings.encloses_iff hne hdots
  have hnone : (s.scope.outerNames.find? fun o => S.known (o ++ "." ++ n)) = none ↔
      ∀ p, s.Encloses p → S.known (p ++ "." ++ n) = false := by
    simp [List.find?_eq_none, hplaces]
  rw [lookup?_scope]
  constructor
  · intro h
    cases haround : s.scope.outerNames.find? fun o => S.known (o ++ "." ++ n) with
    | some p =>
      obtain rfl : p ++ "." ++ n = y := by simpa [haround] using h
      have hknown : S.known (p ++ "." ++ n) = true := (List.find?_eq_some_iff_append.1 haround).1
      refine .around ((hplaces p).2 (List.mem_of_find?_eq_some haround)) hknown fun o ho ht => ?_
      have hstart := prefix_of_find?_eq_some s.pairwise_outerNames haround ((hplaces o).1 ho) ht
      simpa only [String.length_toList] using hstart.length_le
    | none =>
      cases himport : (s.imports ++ S.resolver.globalUsings).find?
          fun u => S.known (u ++ "." ++ n) with
      | some u =>
        obtain rfl : u ++ "." ++ n = y := by simpa [haround, himport] using h
        obtain ⟨hknown, before, after, hsplit, hbefore⟩ :=
          List.find?_eq_some_iff_append.1 himport
        exact .imported (hnone.1 haround) hsplit hknown fun v hv => by simpa using hbefore v hv
      | none =>
        obtain ⟨hknown, rfl⟩ : S.known n = true ∧ n = y := by simpa [haround, himport] using h
        exact .alone (hnone.1 haround)
          (fun u hu => by simpa using List.find?_eq_none.1 himport u hu) hknown
  · intro h
    cases h with
    | @around p encloses known longest =>
      -- something is found, and it is neither longer nor shorter than `p`
      obtain ⟨o, ho⟩ : ∃ o,
          s.scope.outerNames.find? (fun o => S.known (o ++ "." ++ n)) = some o := by
        rw [← Option.isSome_iff_exists, List.find?_isSome]
        exact ⟨p, (hplaces p).1 encloses, known⟩
      have hlength := longest o ((hplaces o).2 (List.mem_of_find?_eq_some ho))
        (List.find?_eq_some_iff_append.1 ho).1
      have hstart := prefix_of_find?_eq_some s.pairwise_outerNames ho ((hplaces p).1 encloses)
        known
      rw [← String.length_toList, ← String.length_toList] at hlength
      obtain rfl : p = o := String.toList_inj.1 (hstart.eq_of_length_le hlength)
      simp [ho]
    | @imported u before after notAround split known first =>
      have himport : (s.imports ++ S.resolver.globalUsings).find?
          (fun u => S.known (u ++ "." ++ n)) = some u :=
        List.find?_eq_some_iff_append.2 ⟨known, before, after, split, by simpa using first⟩
      simp [hnone.2 notAround, himport]
    | alone notAround notImported known =>
      have himport : (s.imports ++ S.resolver.globalUsings).find?
          (fun u => S.known (u ++ "." ++ n)) = none :=
        List.find?_eq_none.2 fun u hu => by simpa using notImported u hu
      simp [hnone.2 notAround, himport, known]

/-! ### What a symbol shows -/

/-- The base names of a declared type are what stands in the base lists of its declarations, each
entry replaced by what it stands for, if that is known. -/
theorem mem_baseNames {q x : String} {t : TypeSymbol} (ht : S.symbol? q = some t)
    (hq : S.declarationsOf q ≠ []) :
    x ∈ t.baseNames ↔ ∃ f ∈ S.files, ∃ s m, f.Stands s m ∧ s.qualifiedName = q ∧
      ∃ written ∈ m.baseEntries f.source, S.baseEntry? s.scope written = some x := by
  rw [(merges_of_symbol? hq ht).baseNames, List.mem_eraseDups, List.mem_flatMap]
  simp only [List.mem_filterMap]
  constructor
  · rintro ⟨⟨f, d⟩, hentry, written, hwritten, hx⟩
    obtain ⟨hf, hd, hname⟩ := mem_declarationsOf.1 hentry
    obtain ⟨s, hs, rfl, hscope⟩ := SourceFile.records_declarations.1 ⟨d, hd, rfl, hname, rfl⟩
    exact ⟨f, hf, s, d.node, hs, rfl, written, hwritten, by rw [← hscope]; exact hx⟩
  · rintro ⟨f, hf, s, m, hs, rfl, written, hwritten, hx⟩
    obtain ⟨d, hd, rfl, hname, hscope⟩ := SourceFile.records_declarations.2 ⟨s, hs, rfl, rfl⟩
    exact ⟨(f, d), mem_declarationsOf.2 ⟨hf, hd, hname⟩, written, hwritten,
      by rw [hscope]; exact hx⟩

/-- The members of a declared type are what is written in the bodies of its declarations. -/
theorem mem_members {q : String} {t : TypeSymbol} {member : MemberSymbol}
    (ht : S.symbol? q = some t) (hq : S.declarationsOf q ≠ []) :
    member ∈ S.model.provider.members t ↔ ∃ f ∈ S.files, ∃ s m, f.Stands s m ∧
      s.qualifiedName = q ∧ ∃ c ∈ m.memberNodes, c.typeKind? = none ∧
        ∃ decl ∈ MemberDecl.ofNode f c, S.resolver.memberSymbol decl s.scope = member := by
  obtain ⟨places, hmembers, hplaces⟩ := gathers_membersOf hq
  have hplace : ∀ f ∈ S.files, ∀ place, place ∈ places f ↔
      ∃ s m, f.Stands s m ∧ s.qualifiedName = q ∧ ∃ c ∈ m.memberNodes, c.typeKind? = none ∧
        place = (c, s.scope) := by
    intro f hf place
    rw [(hplaces f hf).2.perm.mem_iff, List.mem_flatten]
    simp only [typesOf, TypeDecl.places, List.mem_map, List.mem_filter, decide_eq_true_eq,
      Option.isNone_iff_eq_none, exists_exists_and_eq_and]
    constructor
    · rintro ⟨d, ⟨hd, hname⟩, c, ⟨hc, hkind⟩, rfl⟩
      obtain ⟨s, hs, rfl, hscope⟩ := SourceFile.records_declarations.1 ⟨d, hd, rfl, hname, rfl⟩
      exact ⟨s, d.node, hs, rfl, c, hc, hkind, by rw [hscope]⟩
    · rintro ⟨s, m, hs, rfl, c, hc, hkind, rfl⟩
      obtain ⟨d, hd, rfl, hname, hscope⟩ := SourceFile.records_declarations.2 ⟨s, hs, rfl, rfl⟩
      exact ⟨d, ⟨hd, hname⟩, c, ⟨hc, hkind⟩, by rw [hscope]⟩
  rw [members_provider ht, hmembers]
  simp only [List.mem_flatMap, membersAt, List.mem_map]
  constructor
  · rintro ⟨f, hf, place, hin, decl, hdecl, rfl⟩
    obtain ⟨s, m, hs, hname, c, hc, hkind, rfl⟩ := (hplace f hf place).1 hin
    exact ⟨f, hf, s, m, hs, hname, c, hc, hkind, decl, hdecl, rfl⟩
  · rintro ⟨f, hf, s, m, hs, hname, c, hc, hkind, decl, hdecl, rfl⟩
    exact ⟨f, hf, (c, s.scope), (hplace f hf _).2 ⟨s, m, hs, hname, c, hc, hkind, rfl⟩, decl,
      hdecl, rfl⟩

end Sources

/-- The symbol of a member whose type is known by the given name, or not at all. -/
def MemberDecl.symbol (m : MemberDecl) (declaredType : Option String) : MemberSymbol where
  name := m.name
  kind := m.kind
  parameterCount := m.parameterCount
  typeParameterCount := m.typeParameterCount
  returnsVoid := m.returnsVoid
  declaredType := declaredType
  isStatic := m.isStatic
  location := m.location

namespace Sources

variable {S : Sources} {s : Surroundings}

/-- The symbol `t` shows of the declaration at the node `n` that the type `written` there stands for
the known type `r`, or for none. -/
structure Shows (S : Sources) (f : SourceFile) (n : Node) (t : TypeSymbol) (written : String)
    (r : Option String) : Prop where
  /-- An entry of the base list is replaced by the known type, and else kept by its name. -/
  base : written ∈ n.baseEntries f.source →
    ∀ x, r.or (TypeName.normalize? written) = some x → x ≠ "" → x ∈ t.baseNames
  /-- A field or property has the known type, and else none. -/
  member : ∀ c ∈ n.memberNodes, c.typeKind? = none → ∀ m ∈ MemberDecl.ofNode f c,
    m.writtenType = some written → m.symbol r ∈ S.model.provider.members t

/-- **Every declared type has a symbol, and it shows what is found** for the types written in the
declaration. -/
theorem shows_of_stands {f : SourceFile} (hf : f ∈ S.files) {n : Node} (hs : f.Stands s n) :
    ∃ t, S.model.provider.typeNamed? s.qualifiedName = some t ∧
      ∀ written, S.Shows f n t written (S.resolver.resolve? s.scope written) := by
  obtain ⟨d, hd, -, hname, -⟩ := SourceFile.records_declarations.2 ⟨s, hs, rfl, rfl⟩
  have hq : S.declarationsOf s.qualifiedName ≠ [] :=
    List.ne_nil_of_mem (mem_declarationsOf.2 ⟨hf, hd, hname⟩)
  obtain ⟨t, ht⟩ := exists_symbol? hq
  refine ⟨t, (get?_model _).trans ht, fun written => ⟨fun hwritten x hx hne => ?_, ?_⟩⟩
  · refine (mem_baseNames ht hq).2 ⟨f, hf, s, n, hs, rfl, written, hwritten, ?_⟩
    unfold baseEntry?
    rw [hx]
    simp [hne]
  · intro c hc hkind m hm hwritten
    refine (mem_members ht hq).2 ⟨f, hf, s, n, hs, rfl, c, hc, hkind, m, hm, ?_⟩
    rw [Model.Resolver.memberSymbol, MemberDecl.symbol, hwritten]
    rfl

/-- **The innermost declaration is found.**  The types written in a declaration, in its base list
and as the types of its fields and properties, are those that their names stand for; names that
stand for none are kept in base lists, and fields and properties have no type then. -/
theorem innermost_declaration_found (S : Sources) (f : SourceFile) (hf : f ∈ S.files)
    (s : Surroundings) (n : Node) (hs : f.Stands s n)
    (hdots : ∀ name ∈ s.types, '.' ∉ name.toList) :
    ∃ t, S.model.provider.typeNamed? s.qualifiedName = some t ∧
      ∀ written name, TypeName.normalize? written = some name →
        ∃ r, S.Shows f n t written r ∧ ∀ y, r = some y ↔ S.Means s name y := by
  obtain ⟨t, ht, hshows⟩ := shows_of_stands hf hs
  refine ⟨t, ht, fun written name hname => ⟨_, hshows written, fun y => ?_⟩⟩
  rw [← lookup?_eq_some (Surroundings.types_ne_nil hs) hdots, Model.Resolver.resolve?, hname]
  rfl

/-- A class that is based on the class `D` beside it. -/
def besideClass : Node :=
  classNode ⟨29, 40⟩ [writtenName 35, nodeAt "base_list" none ⟨36, 38⟩
    [leafAt "identifier" none ⟨37, 38⟩]] 38 []

/-- A class with these two in it. -/
def aroundClass : Node :=
  classNode ⟨12, 41⟩ [writtenName 18] 19
    [classNode ⟨20, 29⟩ [writtenName 26] 27 [], besideClass]

/-- A file with all of this and another class `D` further outside. -/
def besideFile : SourceFile :=
  classFile "a.cs"
      "namespace A\x7bclass B\x7bclass D\x7b\x7dclass C:D\x7b\x7d\x7dclass D\x7b\x7d\x7d" <|
    nodeAt "namespace_declaration" none ⟨0, 51⟩
      [writtenName 10, nodeAt "declaration_list" (some "body") ⟨11, 51⟩
        [aroundClass, classNode ⟨41, 50⟩ [writtenName 47] 48 []]]

theorem stands_besideClass : besideFile.Stands ⟨["A"], [], ["B", "C"]⟩ besideClass := by
  have hA : (writtenName 10).name besideFile.source = "A" := by decide +kernel
  have hB : (writtenName 18).name besideFile.source = "B" := by decide +kernel
  have hC : (writtenName 35).name besideFile.source = "C" := by decide +kernel
  have hself : Nests besideFile.source besideClass [_] besideClass := .self rfl
  have hnests : Nests besideFile.source aroundClass [_, _] besideClass :=
    .inside rfl (List.mem_cons_of_mem _ List.mem_cons_self) rfl hself
  have hfile : besideFile.Stands (.inNamespace ⟨[], [], [_, _]⟩ _) besideClass :=
    .inBlock rfl rfl (.type rfl hnests)
  simpa only [hA, hB, hC, Surroundings.inNamespace] using hfile

theorem innermost_declaration_found_besideFile :
    besideFile.Stands ⟨["A"], [], ["B", "C"]⟩ besideClass ∧
      (∀ name ∈ ["B", "C"], '.' ∉ name.toList) ∧
      ∃ t, (Sources.mk true [besideFile]).model.provider.typeNamed? "A.B.C" = some t ∧
        "A.B.D" ∈ t.baseNames := by
  have hdots : ∀ name ∈ ["B", "C"], '.' ∉ name.toList := by decide
  obtain ⟨t, ht, hshows⟩ := innermost_declaration_found ⟨true, [besideFile]⟩ besideFile
    List.mem_cons_self _ besideClass stands_besideClass hdots
  refine ⟨stands_besideClass, hdots, t, ht, ?_⟩
  obtain ⟨r, hr, hmeans⟩ := hshows "D" "D" (by decide +kernel)
  have hmeans : r = some ("A.B" ++ "." ++ "D") := by
    refine (hmeans _).2 (.around (.inl (by decide +kernel)) (by decide +kernel) ?_)
    intro o ho hknown
    have hplaces : Scope.outerNames (Surroundings.scope ⟨["A"], [], ["B", "C"]⟩) =
        ["A.B.C", "A.B", "A"] := by decide +kernel
    rw [Surroundings.encloses_iff (List.cons_ne_nil _ _) hdots, hplaces] at ho
    simp only [List.mem_cons, List.not_mem_nil, or_false] at ho
    rcases ho with rfl | rfl | rfl
    · revert hknown
      decide +kernel
    · decide
    · decide
  exact hr.base (by decide +kernel) "A.B.D" (by rw [hmeans]; decide) (by decide)

/-- The class in a namespace whose name starts with a dot, based on what is written `A.B`. -/
def dotClass : Node :=
  classNode ⟨22, 35⟩ [writtenName 28, nodeAt "base_list" none ⟨29, 33⟩
    [leafAt "qualified_name" none ⟨30, 33⟩]] 33 []

/-- A file with that class and with a class `B` beside it. -/
def dotFile : SourceFile :=
  classFile "a.cs" "namespace .A\x7bclass B\x7b\x7dclass C:A.B\x7b\x7d\x7d" <|
    nodeAt "namespace_declaration" none ⟨0, 36⟩
      [nodeAt "qualified_name" (some "name") ⟨10, 12⟩ [leafAt "identifier" none ⟨11, 12⟩],
        nodeAt "declaration_list" (some "body") ⟨12, 36⟩
          [classNode ⟨13, 22⟩ [writtenName 19] 20 [], dotClass]]

/-- A name is also looked up below the empty text before a dot: in the namespace `.A`, the base
`A.B` is the class `.A.B`, although nothing is known by that name below any other place. -/
theorem empty_prefix_dotFile :
    (∀ d ∈ dotFile.typeDecls, '.' ∉ d.name.toList) ∧
      dotFile.Stands ⟨[".A"], [], ["C"]⟩ dotClass ∧ "A.B" ∈ dotClass.baseEntries dotFile.source ∧
      TypeName.normalize? "A.B" = some "A.B" ∧
      (∀ p, p ≠ "" → IsDottedPrefix p ".A.C" →
        (Sources.mk true [dotFile]).known (p ++ "." ++ "A.B") = false) ∧
      (Sources.mk true [dotFile]).resolver.globalUsings = [] ∧
      (Sources.mk true [dotFile]).known "A.B" = false ∧
      ∃ t, (Sources.mk true [dotFile]).model.provider.typeNamed? ".A.C" = some t ∧
        t.baseNames = [".A.B"] := by
  have hstands : dotFile.Stands ⟨[".A"], [], ["C"]⟩ dotClass := by
    have hA : (Node.name dotFile.source <| nodeAt "qualified_name" (some "name") ⟨10, 12⟩
      [leafAt "identifier" none ⟨11, 12⟩]) = ".A" := by decide +kernel
    have hC : (writtenName 28).name dotFile.source = "C" := by decide +kernel
    have hself : Nests dotFile.source dotClass [_] dotClass := .self rfl
    have hrest : Stands dotFile.source [classNode ⟨13, 22⟩ [writtenName 19] 20 [], dotClass]
        ⟨[], [], [_]⟩ dotClass := .behind (.type rfl hself)
    have hfile : dotFile.Stands (.inNamespace ⟨[], [], [_]⟩ _) dotClass :=
      .inBlock rfl rfl hrest
    simpa only [hA, hC, Surroundings.inNamespace] using hfile
  have hbases : ((Sources.mk true [dotFile]).model.provider.typeNamed? ".A.C").map
      TypeSymbol.baseNames = some [".A.B"] := by decide +kernel
  refine ⟨by decide +kernel, hstands, by decide +kernel, by decide +kernel, fun p hp hfront => ?_,
    by decide +kernel, by decide +kernel, Option.map_eq_some_iff.1 hbases⟩
  -- the dotted prefixes are `.A.C`, `.A` and the empty one
  have hmem := isDottedPrefix_iff_mem.1 hfront
  have hfronts : Scope.dottedPrefixes ".A.C".toList = [[], ".A".toList, ".A.C".toList] := by
    decide +kernel
  rw [hfronts] at hmem
  simp only [List.mem_cons, List.not_mem_nil, or_false, String.toList_inj] at hmem
  rcases hmem with hmem | rfl | rfl
  · exact absurd (String.toList_inj.1 (hmem.trans (show [] = "".toList from rfl))) hp
  · decide +kernel
  · decide +kernel

end Sources

end Disposal
