import Disposal.Proofs.Agreement
import Disposal.Proofs.Partial
import Disposal.Proofs.Unrelated

/-!
# The symbol table holds together

The names in a model are made more than once: the walk joins the name of a type to the name of what
it stands in, the symbol joins its own, and base lists and members refer to types by names that are
resolved before the table exists.  All of them agree.

* `Draft.Table.keys_add` is what one declaration does to the keys of the drafts, and
  `Draft.Table.keys_foldl_add` the run: every name is listed once, where it is declared first;
* `Sources.known_types`: the names that count as known while resolving are the keys of the table;
* `Sources.Adds` is what an entry of a base list adds, and `Sources.mem_baseNames_iff_adds`: nothing
  else is added;
* `Sources.Coherent` is what holds of a table, and `Sources.model_coherent`: it does.
-/

namespace Disposal

open Declaration

/-! ### First occurrences -/

theorem nodup_firstOccurrences (xs : List String) : (firstOccurrences xs).Nodup := by
  induction xs with
  | nil => exact List.nodup_nil
  | cons x xs ih =>
    rw [firstOccurrences, List.nodup_cons]
    exact ⟨fun hmem => by simpa using (List.mem_filter.1 hmem).2, ih.filter _⟩

theorem firstOccurrences_of_nodup {xs : List String} (h : xs.Nodup) :
    firstOccurrences xs = xs := by
  induction xs with
  | nil => rfl
  | cons x xs ih =>
    rw [List.nodup_cons] at h
    rw [firstOccurrences, ih h.2, List.filter_eq_self.2]
    intro y hy
    exact decide_eq_true fun hyx => h.1 (hyx ▸ hy)

theorem firstOccurrences_append_left (xs ys : List String) :
    firstOccurrences (firstOccurrences xs ++ ys) = firstOccurrences (xs ++ ys) := by
  rw [firstOccurrences_append, firstOccurrences_append,
    firstOccurrences_of_nodup (nodup_firstOccurrences xs)]
  congr 1
  refine List.filter_congr fun y _ => ?_
  rw [Bool.eq_iff_iff]
  simp [Sources.mem_firstOccurrences]

/-! ### The keys of the drafts -/

/-- The names of the types that some declarations declare, in their order. -/
def Declaration.namesIn (ds : List Declaration) : List String :=
  (typesIn ds).map TypeDecl.qualifiedName

namespace Draft.Table

/-- **One declaration** adds its name behind the others, if it declares a type and the name is
new. -/
theorem keys_add {table : Table} (h : (table.map Prod.fst).Nodup) (d : Declaration) :
    (table.add d).map Prod.fst = firstOccurrences (table.map Prod.fst ++ namesIn [d]) := by
  cases d with
  | type d =>
    rw [add, keys_addType, firstOccurrences_append, firstOccurrences_of_nodup h]
    split_ifs with hmem
    · simp [namesIn, firstOccurrences, hmem]
    · simp [namesIn, firstOccurrences, hmem]
  | member owner scope m =>
    have hnone : namesIn [.member owner scope m] = [] := rfl
    rw [add, keys_addMember, hnone, List.append_nil, firstOccurrences_of_nodup h]
  | globalUsing target =>
    have hnone : namesIn [.globalUsing target] = [] := rfl
    rw [add, hnone, List.append_nil, firstOccurrences_of_nodup h]
  | unnamed kind =>
    have hnone : namesIn [.unnamed kind] = [] := rfl
    rw [add, hnone, List.append_nil, firstOccurrences_of_nodup h]

/-- **A run** lists every name once, where it is declared first. -/
theorem keys_foldl_add {table : Table} (h : (table.map Prod.fst).Nodup) (ds : List Declaration) :
    (ds.foldl add table).map Prod.fst =
      firstOccurrences (table.map Prod.fst ++ namesIn ds) := by
  induction ds generalizing table with
  | nil => simp [namesIn, firstOccurrences_of_nodup h]
  | cons d ds ih =>
    have hnames : namesIn (d :: ds) = namesIn [d] ++ namesIn ds := by
      rw [namesIn, ← List.singleton_append, typesIn_append, List.map_append]
      rfl
    rw [List.foldl_cons, ih (nodup_keys_add h d), keys_add h, firstOccurrences_append_left, hnames,
      List.append_assoc]

theorem keys_ofDeclarations (ds : List Declaration) :
    (ofDeclarations ds).map Prod.fst = firstOccurrences (namesIn ds) :=
  @keys_foldl_add [] List.nodup_nil ds

end Draft.Table

namespace Sources

variable {S : Sources} {q : String}

/-! ### Keys -/

/-- **What is known** while names are resolved is what the table lists in the end. -/
theorem known_types (S : Sources) : S.model.types.known = S.known := by
  funext q
  rw [TypeTable.known, get?_model, isSome_symbol?]

/-- What is listed in the table is found there, because no name is listed twice. -/
theorem symbol?_of_mem_types {t : TypeSymbol} (h : (q, t) ∈ S.model.types) :
    S.symbol? q = some t :=
  (get?_model q).symm.trans (Assoc.lookup_of_mem S.nodup_keys_types h)

theorem known_of_resolve? {scope : Scope} {written r : String}
    (h : S.resolver.resolve? scope written = some r) : S.known r = true := by
  obtain ⟨t, ht⟩ := symbol?_of_resolve? h
  rw [← isSome_symbol?, ht, Option.isSome_some]

/-! ### Base names -/

/-- What the name `name`, written in a base list, adds: the first known name that it may stand for,
and if there is none, the name itself. -/
inductive Adds (S : Sources) (scope : Scope) (name : String) : String → Prop where
  | known {key : String} {before after : List String}
      (split : scope.candidates S.resolver.globalUsings name = before ++ key :: after)
      (isKey : S.model.types.known key = true)
      (first : ∀ c ∈ before, S.model.types.known c = false) : Adds S scope name key
  | unknown (none : ∀ c ∈ scope.candidates S.resolver.globalUsings name,
      S.model.types.known c = false) : Adds S scope name name

theorem adds_iff {scope : Scope} {name b : String} : S.Adds scope name b ↔
    (scope.lookup? S.resolver.globalUsings S.known name).or (some name) = some b := by
  rw [Scope.lookup?]
  constructor
  · rintro (⟨split, isKey, first⟩ | none)
    · rw [known_types] at isKey first
      have hfind := List.find?_eq_some_iff_append.2
        ⟨isKey, _, _, split, fun c hc => by simp [first c hc]⟩
      rw [hfind, Option.some_or]
    · rw [known_types] at none
      rw [List.find?_eq_none.2 fun c hc => by simp [none c hc], Option.none_or]
  · intro h
    cases hfind : (scope.candidates S.resolver.globalUsings name).find? S.known with
    | none =>
      rw [hfind, Option.none_or] at h
      obtain rfl := Option.some.inj h
      refine .unknown fun c hc => ?_
      rw [known_types]
      simpa using List.find?_eq_none.1 hfind c hc
    | some key =>
      rw [hfind, Option.some_or] at h
      obtain rfl := Option.some.inj h
      obtain ⟨isKey, before, after, split, first⟩ := List.find?_eq_some_iff_append.1 hfind
      refine .known split (by rwa [known_types]) fun c hc => ?_
      rw [known_types]
      simpa using first c hc

/-- A name in a base list adds exactly one name. -/
theorem existsUnique_adds (S : Sources) (scope : Scope) (name : String) :
    ∃! b, S.Adds scope name b := by
  obtain ⟨b, hb⟩ : ∃ b, (scope.lookup? S.resolver.globalUsings S.known name).or (some name) =
      some b := by
    rw [← Option.isSome_iff_exists]
    simp
  exact ⟨b, adds_iff.2 hb, fun c hc => Option.some.inj ((adds_iff.1 hc).symm.trans hb)⟩

/-- What is added is known exactly if the name may stand for something known. -/
theorem Adds.known_iff {scope : Scope} {name b : String} (h : S.Adds scope name b) :
    S.model.types.known b = true ↔
      ∃ c ∈ scope.candidates S.resolver.globalUsings name, S.model.types.known c = true := by
  cases h with
  | known split isKey first =>
    refine iff_of_true isKey ⟨b, ?_, isKey⟩
    rw [split]
    simp
  | unknown none =>
    refine iff_of_false (by simp [none name (Scope.mem_candidates_self ..)]) ?_
    rintro ⟨c, hc, hkey⟩
    rw [none c hc] at hkey
    cases hkey

theorem Adds.eq_of_not_known {scope : Scope} {name b : String} (h : S.Adds scope name b)
    (hnone : ∀ c ∈ scope.candidates S.resolver.globalUsings name,
      S.model.types.known c = false) : b = name := by
  cases h with
  | known split isKey first =>
    rw [hnone b (by simp [split])] at isKey
    cases isKey
  | unknown none => rfl

theorem baseEntry?_eq_some {scope : Scope} {written b : String} :
    S.baseEntry? scope written = some b ↔
      b ≠ "" ∧ ∃ name, TypeName.normalize? written = some name ∧ S.Adds scope name b := by
  rw [ baseEntry?, Option.filter_eq_some_iff, Model.Resolver.resolve?]
  simp only [adds_iff]
  cases TypeName.normalize? written with
  | none => simp
  | some name => simp [and_comm, resolver]

/-- **The base names** of a declared type are what the entries of its base lists add. -/
theorem mem_baseNames_iff_adds {t : TypeSymbol} (ht : S.symbol? q = some t)
    (hq : S.declarationsOf q ≠ []) {b : String} :
    b ∈ t.baseNames ↔ b ≠ "" ∧ ∃ entry ∈ S.declarationsOf q, ∃ written ∈ entry.2.bases,
      ∃ name, TypeName.normalize? written = some name ∧ S.Adds entry.2.scope name b := by
  rw [(merges_of_symbol? hq ht).baseNames, List.mem_eraseDups, List.mem_flatMap]
  simp only [List.mem_filterMap, baseEntry?_eq_some]
  constructor
  · rintro ⟨⟨f, d⟩, hentry, written, hwritten, hb, hadds⟩
    obtain ⟨-, -, -, -, hbases⟩ := reads_of_mem_declarationsOf hentry
    exact ⟨hb, (f, d), hentry, written, hbases ▸ hwritten, hadds⟩
  · rintro ⟨hb, ⟨f, d⟩, hentry, written, hwritten, hadds⟩
    obtain ⟨-, -, -, -, hbases⟩ := reads_of_mem_declarationsOf hentry
    exact ⟨(f, d), hentry, written, hbases ▸ hwritten, hb, hadds⟩

/-! ### The table -/

/-- The declared types are listed under their names, each where it is declared first. -/
theorem map_qualifiedName_declaredTypes (S : Sources) :
    S.model.declaredTypes.map TypeSymbol.qualifiedName =
      (S.files.flatMap fun f => f.typeDecls.map TypeDecl.qualifiedName).eraseDups := by
  have hdeclared : S.model.declared = firstOccurrences (namesIn S.declarations) := by
    rw [model_eq]
    exact Draft.Table.keys_ofDeclarations S.declarations
  have hnames : namesIn S.declarations =
      S.files.flatMap fun f => f.typeDecls.map TypeDecl.qualifiedName := by
    rw [namesIn, declarations, typesIn_flatMap, List.map_flatMap]
    rfl
  -- every declared name has a symbol, and that has this name
  have hsame : ∀ name ∈ S.model.declared,
      (S.model.types.get? name).map TypeSymbol.qualifiedName = some name := by
    intro name hname
    rw [hdeclared, mem_firstOccurrences, hnames, List.mem_flatMap] at hname
    obtain ⟨f, hf, hmem⟩ := hname
    obtain ⟨d, hd, rfl⟩ := List.mem_map.1 hmem
    obtain ⟨t, ht⟩ := exists_symbol? (List.ne_nil_of_mem (mem_declarationsOf.2 ⟨hf, hd, rfl⟩))
    rw [get?_model, ht, Option.map_some, qualifiedName_of_symbol? ht]
  rw [Model.declaredTypes, List.map_filterMap, List.filterMap_congr hsame, List.filterMap_some,
    hdeclared, hnames, firstOccurrences_eq_eraseDups]

theorem known_of_declaredType {ms : List MemberSymbol} (h : (q, ms) ∈ S.model.members)
    {m : MemberSymbol} (hm : m ∈ ms) {r : String} (hr : m.declaredType = some r) :
    S.known r = true := by
  rw [model_eq] at h
  obtain ⟨⟨name, d⟩, -, heq⟩ := List.mem_map.1 h
  obtain ⟨-, rfl⟩ := Prod.mk.inj heq
  obtain ⟨⟨decl, scope⟩, -, rfl⟩ := List.mem_map.1 hm
  obtain ⟨written, -, hresolve⟩ := Option.bind_eq_some_iff.1 hr
  exact known_of_resolve? hresolve

theorem known_of_mem_bindings {spans : List (Span × String)} (h : spans ∈ S.model.bindings)
    {span : Span} (hspan : (span, q) ∈ spans) : S.known q = true := by
  rw [model_eq] at h
  obtain ⟨f, hf, rfl⟩ := List.mem_map.1 h
  obtain ⟨d, hd, -, hname⟩ := mem_bindingsOf.1 hspan
  have hdeclared := List.ne_nil_of_mem (mem_declarationsOf.2 ⟨hf, hd, hname⟩)
  rw [known]
  simp [hdeclared]

/-- What holds together in the symbol table of some files. -/
structure Coherent (S : Sources) : Prop where
  /-- No key is listed twice. -/
  nodup_keys : (S.model.types.map Prod.fst).Nodup
  /-- A key is the name of its symbol. -/
  qualifiedName : ∀ q t, (q, t) ∈ S.model.types → t.qualifiedName = q
  /-- What is shown as the members of a symbol is listed under its key. -/
  members : ∀ q t, (q, t) ∈ S.model.types → S.model.provider.members t = S.model.membersOf q
  /-- The type of a member is a key, if the member has one. -/
  declaredType : ∀ q ms, (q, ms) ∈ S.model.members → ∀ m ∈ ms, ∀ r, m.declaredType = some r →
    S.model.types.known r = true
  /-- An entry of a base list that may stand for a key adds a key, and any other adds its name,
  which is no key then. -/
  adds : ∀ q t, (q, t) ∈ S.model.types → ∀ entry ∈ S.declarationsOf q,
    ∀ written ∈ entry.2.bases, ∀ name, TypeName.normalize? written = some name → name ≠ "" →
      ((∃ c ∈ entry.2.scope.candidates S.resolver.globalUsings name,
          S.model.types.known c = true) →
        ∃ b ∈ t.baseNames, S.Adds entry.2.scope name b ∧ S.model.types.known b = true) ∧
      ((∀ c ∈ entry.2.scope.candidates S.resolver.globalUsings name,
          S.model.types.known c = false) →
        name ∈ t.baseNames ∧ S.model.types.known name = false)
  /-- A declared type has no other base names. -/
  added : ∀ q t, (q, t) ∈ S.model.types → S.declarationsOf q ≠ [] → ∀ b ∈ t.baseNames,
    ∃ entry ∈ S.declarationsOf q, ∃ written ∈ entry.2.bases, ∃ name,
      TypeName.normalize? written = some name ∧ S.Adds entry.2.scope name b
  /-- A declared type has none of its base names twice. -/
  nodup_baseNames : ∀ q t, (q, t) ∈ S.model.types → S.declarationsOf q ≠ [] → t.baseNames.Nodup
  /-- A declaration is bound to a key. -/
  bindings : ∀ spans ∈ S.model.bindings, ∀ span q, (span, q) ∈ spans →
    S.model.types.known q = true
  /-- The declared types are listed by name, each where it is declared first: file by file, and in
  each file in document order. -/
  declaredTypes : S.model.declaredTypes.map TypeSymbol.qualifiedName =
      (S.files.flatMap fun f => f.typeDecls.map TypeDecl.qualifiedName).eraseDups ∧
    ∀ f ∈ S.files, (f.typeDecls.map TypeDecl.node).Sublist f.root.preorder

theorem adds_ne_empty {scope : Scope} {name b : String} (hname : name ≠ "")
    (h : S.Adds scope name b) : b ≠ "" := by
  cases h with
  | known split isKey first =>
    have hmem : b ∈ scope.candidates S.resolver.globalUsings name := by
      rw [split]
      simp
    rintro rfl
    exact hname (eq_empty_of_mem_candidates hmem)
  | unknown none => exact hname

/-- **The symbol table of any files holds together.** -/
theorem model_coherent (S : Sources) : S.Coherent := by
  refine ⟨S.nodup_keys_types, fun q t h => qualifiedName_of_symbol? (symbol?_of_mem_types h),
    fun q t h => members_provider (symbol?_of_mem_types h), ?_, ?_, ?_, ?_, ?_,
    map_qualifiedName_declaredTypes S, fun f _ => f.typeDecls_sublist.trans List.filter_sublist⟩
  · intro q ms h m hm r hr
    rw [known_types]
    exact known_of_declaredType h hm hr
  · intro q t ht entry hentry written hwritten name hname hne
    obtain ⟨b, hadds, -⟩ := S.existsUnique_adds entry.2.scope name
    have hmem : b ∈ t.baseNames :=
      (mem_baseNames_iff_adds (symbol?_of_mem_types ht) (List.ne_nil_of_mem hentry)).2
        ⟨adds_ne_empty hne hadds, entry, hentry, written, hwritten, name, hname, hadds⟩
    refine ⟨fun hcandidate => ⟨b, hmem, hadds, hadds.known_iff.2 hcandidate⟩, fun hnone => ?_⟩
    obtain rfl := hadds.eq_of_not_known hnone
    exact ⟨hmem, hnone b (Scope.mem_candidates_self ..)⟩
  · intro q t ht hq b hb
    exact ((mem_baseNames_iff_adds (symbol?_of_mem_types ht) hq).1 hb).2
  · intro q t ht hq
    rw [(merges_of_symbol? hq (symbol?_of_mem_types ht)).baseNames, ← firstOccurrences_eq_eraseDups]
    exact nodup_firstOccurrences _
  · intro spans hspans span q hmem
    rw [known_types]
    exact known_of_mem_bindings hspans hmem

/-- A type in a namespace is the same type as one that is nested in a class of the name of the
namespace. -/
example :
    (Model.ofFiles false [.read
      "namespace N\x7bclass A\x7bclass B\x7b\x7d\x7d\x7dnamespace N.A\x7bclass B\x7b\x7d\x7d"
    ]).declaredTypes.map TypeSymbol.qualifiedName = ["N.A", "N.A.B"] := by
  decide +kernel

end Sources

end Disposal
