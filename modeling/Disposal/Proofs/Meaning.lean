import Disposal.Proofs.Closure
import Disposal.Proofs.Merge
import Mathlib.Data.List.Basic

/-!
# The meaning of a set of files

What some files declare, said of the files themselves and not of the tables that are built from
them: which declarations a type has, which names are known, what a written name stands for, and
which types a type is based on.

* `Sources` is a set of files, `Sources.declarationsOf` are the declarations of one name in the
  order of the files and of the text, `Sources.Base` is one step to a base type and
  `Sources.Disposable` what has the disposal interface among its bases;
* `Sources.get?_model` and `Sources.membersOf_model`: the model of the files holds exactly that;
* `Sources.transGen_extends` and `Sources.implements_iff`: the closure that the model computes is
  the closure of `Sources.Base`.
-/

namespace Disposal

open Declaration Relation

/-- Some files, read with or without the framework types. -/
structure Sources where
  includeFramework : Bool
  files : List SourceFile

namespace Sources

/-- All declarations, file by file. -/
def declarations (S : Sources) : List Declaration := S.files.flatMap SourceFile.declarations

/-- The declarations of the type named `q` with their files: file by file, and in each file in
the order they stand. -/
def declarationsOf (S : Sources) (q : String) : List (SourceFile × TypeDecl) :=
  S.files.flatMap fun f => (typesOf q f.declarations).map fun d => (f, d)

/-- The framework type named `q`, if framework types count. -/
def frameworkType? (S : Sources) (q : String) : Option TypeSymbol :=
  if S.includeFramework then Framework.types.find? fun t => t.qualifiedName = q else none

/-- Whether a name is declared in a file or names a framework type. -/
def known (S : Sources) (q : String) : Bool :=
  !(S.declarationsOf q).isEmpty || (S.frameworkType? q).isSome

/-- How names are resolved when all files are known. -/
def resolver (S : Sources) : Model.Resolver := ⟨S.known, Model.globalUsings S.declarations⟩

/-- The kind of a known type: that of its first declaration, or else of the framework type. -/
def kindOf? (S : Sources) (q : String) : Option TypeKind :=
  match S.declarationsOf q with
  | [] => (S.frameworkType? q).map TypeSymbol.kind
  | (_, first) :: _ => some first.kind

/-- `b` is a base of `a`: an entry in the base list of some declaration of `a` stands for the
known type `b`.  The bases of a framework type count as long as no file declares the type, and
what has no name is nobody's base. -/
inductive Base (S : Sources) : String → String → Prop where
  | declared {a b written : String} {f : SourceFile} {d : TypeDecl}
      (decl : (f, d) ∈ S.declarationsOf a) (entry : written ∈ d.bases)
      (resolved : S.resolver.resolve? d.scope written = some b) (named : b ≠ "") : Base S a b
  | framework {a b : String} {t : TypeSymbol} (undeclared : S.declarationsOf a = [])
      (type : S.frameworkType? a = some t) (entry : b ∈ t.baseNames) : Base S a b

/-- The type named `r` is the type named `i`, or has it among its bases and theirs. -/
def Disposable (S : Sources) (i r : String) : Prop := r = i ∨ TransGen S.Base r i

/-- The model of the files. -/
def model (S : Sources) : Model := .ofFiles S.includeFramework S.files

variable {S : Sources}

/-! ### Declarations of one name -/

theorem declarations_owned (S : Sources) : Owned [] S.declarations :=
  owned_flatMap fun f _ => f.declarations_owned

theorem map_snd_declarationsOf (S : Sources) (q : String) :
    (S.declarationsOf q).map Prod.snd = typesOf q S.declarations := by
  rw [declarationsOf, declarations, typesOf, typesIn_flatMap, List.filter_flatMap,
    List.map_flatMap]
  simp [Function.comp_def, typesOf]

theorem mem_declarationsOf {q : String} {f : SourceFile} {d : TypeDecl} :
    (f, d) ∈ S.declarationsOf q ↔ f ∈ S.files ∧ d ∈ f.typeDecls ∧ d.qualifiedName = q := by
  simp [declarationsOf, typesOf, SourceFile.typeDecls]

theorem globalUsings_declarations (S : Sources) : Model.globalUsings S.declarations =
    S.files.flatMap fun f => Model.globalUsings f.declarations :=
  List.filterMap_flatMap ..

theorem membersIn_declarations {q : String} (hq : q ≠ "") :
    membersIn q S.declarations = (S.declarationsOf q).flatMap fun entry =>
      (entry.2.members entry.1).map fun m => (m, entry.2.scope) := by
  rw [declarations, membersIn_flatMap, declarationsOf, List.flatMap_assoc]
  refine List.flatMap_congr fun f _ => ?_
  rw [f.membersIn_declarations hq, List.flatMap_map]

/-! ### The model -/

/-- The drafts of the files. -/
def drafts (S : Sources) : Draft.Table := .ofDeclarations S.declarations

theorem lookup_drafts (q : String) : S.drafts.lookup q = Draft.merged q S.declarations :=
  Draft.Table.lookup_ofDeclarations S.declarations_owned q

theorem isSome_lookup_drafts (q : String) :
    (S.drafts.lookup q).isSome = !(S.declarationsOf q).isEmpty := by
  rw [lookup_drafts, Draft.isSome_merged, ← map_snd_declarationsOf, List.isEmpty_map]

/-- The framework types that the model adds to the declared ones. -/
def others (S : Sources) : TypeTable :=
  (if S.includeFramework then Framework.table else []).filter fun entry =>
    (S.drafts.lookup entry.1).isNone

theorem lookup_others (q : String) :
    S.others.lookup q = if (S.declarationsOf q).isEmpty then S.frameworkType? q else none := by
  rw [others, Assoc.lookup_filter fun name => (S.drafts.lookup name).isNone, ← Option.not_isSome,
    isSome_lookup_drafts, Bool.not_not, frameworkType?]
  split_ifs
  · exact Assoc.lookup_keyed TypeSymbol.qualifiedName Framework.types q
  · rfl
  · rfl

theorem model_eq (S : Sources) : S.model =
    { types := S.drafts.map (fun (name, d) => (name, S.resolver.typeSymbol d)) ++ S.others
      members := S.drafts.map fun (name, d) =>
        (name, d.members.map fun (m, scope) => S.resolver.memberSymbol m scope)
      declared := S.drafts.map Prod.fst
      bindings := S.files.map fun f => Model.bindingsOf f.declarations } := by
  have hdecls : (S.files.map SourceFile.declarations).flatten = S.declarations :=
    List.flatMap_def.symm
  have hresolver : Model.Resolver.mk
      (fun name => (S.drafts.lookup name).isSome || (S.others.lookup name).isSome)
      (Model.globalUsings S.declarations) = S.resolver := by
    rw [resolver, Model.Resolver.mk.injEq]
    refine ⟨funext fun name => ?_, rfl⟩
    rw [isSome_lookup_drafts, lookup_others, known]
    by_cases hname : (S.declarationsOf name).isEmpty
    · simp [hname]
    · simp [hname]
  rw [model, Model.ofFiles, Model.ofDeclarations]
  simp only [hdecls, List.map_map]
  rw [← hresolver]
  rfl

/-- The symbol of a declared type: names, kind and place are those of the first declaration, the
first explicit accessibility counts, and base lists are put together. -/
def symbolOf (S : Sources) (first : TypeDecl) (all : List TypeDecl) : TypeSymbol where
  name := first.name
  namespaceName := first.namespaceName
  kind := first.kind
  accessibility := .firstExplicit (all.map TypeDecl.accessibility)
  baseNames := firstOccurrences ((all.flatMap fun d =>
    d.bases.filterMap fun written => S.resolver.baseName? d.scope written).filter (· ≠ ""))
  isPartial := all.any TypeDecl.isPartial
  containingType := first.containingType
  location := some first.location

/-- The symbol of a known type; types that no file declares are those of the framework. -/
def symbol? (S : Sources) (q : String) : Option TypeSymbol :=
  match S.declarationsOf q with
  | [] => S.frameworkType? q
  | (f, first) :: rest => some (S.symbolOf first (((f, first) :: rest).map Prod.snd))

/-- **The types of the model** are put together from the declarations of their names. -/
theorem get?_model (q : String) : S.model.types.get? q = S.symbol? q := by
  have hdrafts : (S.drafts.map fun entry => (entry.1, S.resolver.typeSymbol entry.2)).lookup q =
      (S.drafts.lookup q).map S.resolver.typeSymbol := Assoc.lookup_map ..
  rw [model_eq, TypeTable.get?, List.lookup_append, hdrafts, lookup_drafts, Draft.merged,
    lookup_others, ← map_snd_declarationsOf, symbol?]
  cases S.declarationsOf q with
  | nil => simp
  | cons entry rest =>
    obtain ⟨f, first⟩ := entry
    simp [Model.Resolver.typeSymbol, Model.Resolver.baseNames, symbolOf, Draft.basesOf,
      Draft.ofDecl, Function.comp_def, List.filterMap_flatMap, List.filterMap_map]

/-- The members that the model lists under a name are those of its draft, resolved. -/
theorem lookup_members_model (q : String) :
    S.model.members.lookup q = (Draft.merged q S.declarations).map fun d =>
      d.members.map fun m => S.resolver.memberSymbol m.1 m.2 := by
  have hlookup : (S.drafts.map fun entry => (entry.1,
      entry.2.members.map fun m => S.resolver.memberSymbol m.1 m.2)).lookup q =
        (S.drafts.lookup q).map fun d =>
          d.members.map fun m => S.resolver.memberSymbol m.1 m.2 :=
    Assoc.lookup_map (fun d : Draft => d.members.map fun m => S.resolver.memberSymbol m.1 m.2) _ q
  rw [model_eq, hlookup, lookup_drafts]

theorem membersOf_model_eq_merged (q : String) :
    S.model.membersOf q = ((Draft.merged q S.declarations).map fun d =>
      d.members.map fun m => S.resolver.memberSymbol m.1 m.2).getD [] := by
  rw [Model.membersOf, lookup_members_model]

/-- The members of a declared type are those that all files have under its name. -/
theorem membersOf_model_of_declared {q : String} (h : S.declarationsOf q ≠ []) :
    S.model.membersOf q =
      (membersIn q S.declarations).map fun m => S.resolver.memberSymbol m.1 m.2 := by
  obtain ⟨entry, rest, hds⟩ := List.exists_cons_of_ne_nil h
  rw [membersOf_model_eq_merged, Draft.merged, ← map_snd_declarationsOf, hds]
  rfl

/-- **The members of a type in the model** are those written in its declarations, each resolved
in the scope of its declaration. -/
theorem membersOf_model {q : String} (hq : q ≠ "") :
    S.model.membersOf q = (S.declarationsOf q).flatMap fun entry =>
      (entry.2.members entry.1).map fun m => S.resolver.memberSymbol m entry.2.scope := by
  by_cases hds : S.declarationsOf q = []
  · rw [membersOf_model_eq_merged, Draft.merged, ← map_snd_declarationsOf, hds]
    rfl
  · rw [membersOf_model_of_declared hds, membersIn_declarations hq]
    simp [List.map_flatMap, Function.comp_def]

/-! ### Names -/

theorem isSome_symbol? (q : String) : (S.symbol? q).isSome = S.known q := by
  rw [symbol?, known]
  cases S.declarationsOf q with
  | nil => simp
  | cons entry rest => simp

theorem kindOf?_eq_some {q : String} {k : TypeKind} :
    S.kindOf? q = some k ↔ ∃ t, S.symbol? q = some t ∧ t.kind = k := by
  rw [symbol?, kindOf?]
  cases S.declarationsOf q with
  | nil => simp
  | cons entry rest => simp [symbolOf]

theorem qualifiedName_of_symbol? {q : String} {t : TypeSymbol} (h : S.symbol? q = some t) :
    t.qualifiedName = q := by
  rw [symbol?] at h
  cases hds : S.declarationsOf q with
  | nil =>
    rw [hds] at h
    simp only [frameworkType?] at h
    split_ifs at h
    simpa using List.find?_some h
  | cons entry rest =>
    obtain ⟨f, first⟩ := entry
    have hfirst : (f, first) ∈ S.declarationsOf q := by rw [hds]; exact List.mem_cons_self
    obtain ⟨-, hmem, hname⟩ := mem_declarationsOf.1 hfirst
    rw [hds] at h
    obtain rfl := Option.some.inj h
    rw [← hname, (f.typeDecls_reads first hmem).qualifiedName_eq, TypeSymbol.qualifiedName]
    rfl

theorem mem_firstOccurrences {x : String} {xs : List String} :
    x ∈ firstOccurrences xs ↔ x ∈ xs := by
  induction xs with
  | nil => rfl
  | cons y xs ih =>
    rw [firstOccurrences, List.mem_cons, List.mem_cons, List.mem_filter, ih]
    by_cases hxy : x = y
    · simp [hxy]
    · simp [hxy]

theorem ne_empty_of_dot (outer name : String) : outer ++ "." ++ name ≠ "" := by
  intro h
  have hlength := congrArg String.length h
  rw [String.length_append, String.length_append] at hlength
  have hdot : ".".length = 1 := rfl
  have hempty : "".length = 0 := rfl
  omega

/-- Only the name itself can be empty. -/
theorem eq_empty_of_mem_candidates {scope : Scope} {globalUsings : List String} {name : String}
    (h : "" ∈ scope.candidates globalUsings name) : name = "" := by
  rcases List.mem_append.1 h with h | h
  · obtain ⟨outer, -, houter⟩ := List.mem_map.1 h
    exact absurd houter (ne_empty_of_dot outer name)
  · exact (List.mem_singleton.1 h).symm

theorem normalize?_of_resolve?_empty {scope : Scope} {written : String}
    (h : S.resolver.resolve? scope written = some "") : TypeName.normalize? written = some "" := by
  obtain ⟨bare, hbare, hlookup⟩ := Option.bind_eq_some_iff.1 h
  rw [hbare, eq_empty_of_mem_candidates (List.mem_of_find?_eq_some hlookup)]

/-- A written name that stands for no known type is not known as it is written either. -/
theorem known_of_resolve?_none {scope : Scope} {written bare : String}
    (h : S.resolver.resolve? scope written = none)
    (hbare : TypeName.normalize? written = some bare) : S.known bare = false := by
  rw [Model.Resolver.resolve?, hbare, Option.bind_some, Scope.lookup?, List.find?_eq_none] at h
  simpa [resolver] using h bare (scope.mem_candidates_self S.resolver.globalUsings bare)

theorem resolve?_of_baseName? {scope : Scope} {written b : String}
    (h : S.resolver.baseName? scope written = some b) (hb : b ≠ "") (hknown : S.known b = true) :
    S.resolver.resolve? scope written = some b := by
  unfold Model.Resolver.baseName? at h
  split at h
  · rename_i name hres
    split_ifs at h with hname
    · subst hname
      rw [normalize?_of_resolve?_empty hres] at h
      exact absurd (Option.some.inj h).symm hb
    · rw [hres, h]
  · rename_i hres
    rw [known_of_resolve?_none hres h] at hknown
    cases hknown

theorem baseName?_of_resolve? {scope : Scope} {written b : String}
    (h : S.resolver.resolve? scope written = some b) (hb : b ≠ "") :
    S.resolver.baseName? scope written = some b := by
  unfold Model.Resolver.baseName?
  split
  · rename_i name hres
    obtain rfl : name = b := Option.some.inj (hres.symm.trans h)
    rw [if_neg hb]
  · rename_i hres
    rw [h] at hres
    cases hres

/-! ### Bases -/

theorem base_of_extends {a b : String} (h : S.model.types.Extends a b)
    (hb : S.known b = true) : S.Base a b := by
  obtain ⟨t, ht, hmem⟩ := h
  rw [get?_model, symbol?] at ht
  cases hds : S.declarationsOf a with
  | nil =>
    rw [hds] at ht
    exact .framework hds ht hmem
  | cons entry rest =>
    rw [hds] at ht
    obtain rfl := Option.some.inj ht
    rw [symbolOf, mem_firstOccurrences, List.mem_filter, List.mem_flatMap] at hmem
    obtain ⟨⟨d, hd, hwritten⟩, hne⟩ := hmem
    obtain ⟨⟨f, _⟩, hdecl, rfl⟩ := List.mem_map.1 hd
    obtain ⟨written, hentry, hname⟩ := List.mem_filterMap.1 hwritten
    have hne : b ≠ "" := by simpa using hne
    exact .declared (by rw [hds]; exact hdecl) hentry (resolve?_of_baseName? hname hne hb) hne

theorem extends_of_base {a b : String} (h : S.Base a b) : S.model.types.Extends a b := by
  cases h with
  | framework undeclared type entry =>
    exact ⟨_, by rw [get?_model, symbol?, undeclared]; exact type, entry⟩
  | declared decl entry resolved named =>
    rename_i written f d
    cases hds : S.declarationsOf a with
    | nil => rw [hds] at decl; cases decl
    | cons first rest =>
      rw [hds] at decl
      refine ⟨_, by rw [get?_model, symbol?, hds], ?_⟩
      rw [symbolOf, mem_firstOccurrences, List.mem_filter, List.mem_flatMap]
      have hname := baseName?_of_resolve? resolved named
      exact ⟨⟨d, List.mem_map.2 ⟨(f, d), decl, rfl⟩, List.mem_filterMap.2 ⟨written, entry, hname⟩⟩,
        by simpa using named⟩

/-- **The paths of the model to a known name** are those along bases. -/
theorem transGen_extends {a i : String} (hi : S.known i = true) :
    TransGen S.model.types.Extends a i ↔ TransGen S.Base a i := by
  refine ⟨fun h => ?_, TransGen.mono (fun _ _ => extends_of_base) _ _⟩
  induction h using TransGen.head_induction_on with
  | single hstep => exact .single (base_of_extends hstep hi)
  | head hstep hrest ih =>
    rename_i a b
    -- a name that leads further is known
    have hknown : S.known b = true := by
      obtain ⟨c, ⟨t, ht, -⟩, -⟩ := TransGen.head'_iff.1 hrest
      rw [← isSome_symbol?, ← get?_model, ht]
      rfl
    exact .head (base_of_extends hstep hknown) ih

theorem qualifiedName_of_same {s t : TypeSymbol} (h : s.Same t) :
    s.qualifiedName = t.qualifiedName := by
  have hname : s.unlocated.qualifiedName = t.unlocated.qualifiedName :=
    congrArg TypeSymbol.qualifiedName h
  exact hname

/-- **A known type implements a known type** if that is an interface under another name among
its bases. -/
theorem implements_iff {q i : String} {t interface : TypeSymbol} (ht : S.symbol? q = some t)
    (hi : S.symbol? i = some interface) :
    S.model.provider.implements t interface = true ↔
      interface.kind = .interfaceType ∧ i ≠ q ∧ TransGen S.Base q i := by
  have hq : t.qualifiedName = q := qualifiedName_of_symbol? ht
  have hget : S.model.types.get? t.qualifiedName = some t := by rw [get?_model, hq, ht]
  have hknown : S.known i = true := by rw [← isSome_symbol?, hi]; rfl
  rw [← transGen_extends hknown]
  simp only [Provider.implements, Model.provider, List.any_eq_true, decide_eq_true_eq]
  constructor
  · rintro ⟨j, hj, hsame⟩
    obtain ⟨hkind, n, hne, hpath, hn⟩ := (TypeTable.mem_interfaces hget).1 hj
    -- the same type under the same name
    have hname : j.qualifiedName = interface.qualifiedName := qualifiedName_of_same hsame
    rw [get?_model] at hn
    rw [qualifiedName_of_symbol? hn, qualifiedName_of_symbol? hi] at hname
    subst hname
    obtain rfl : j = interface := Option.some.inj (hn.symm.trans hi)
    exact ⟨hkind, hq ▸ hne, hq ▸ hpath⟩
  · rintro ⟨hkind, hne, hpath⟩
    refine ⟨interface, (TypeTable.mem_interfaces hget).2 ⟨hkind, i, hq ▸ hne, hq ▸ hpath, ?_⟩, rfl⟩
    rw [get?_model, hi]

/-- A known type is an interface or implements it if it is disposable with it. -/
theorem isOrImplements_iff {r i : String} {t interface : TypeSymbol} (ht : S.symbol? r = some t)
    (hi : S.symbol? i = some interface) (hkind : interface.kind = .interfaceType) :
    S.model.provider.isOrImplements t interface = true ↔ S.Disposable i r := by
  rw [Provider.isOrImplements, Bool.or_eq_true, implements_iff ht hi, decide_eq_true_eq, Disposable]
  constructor
  · rintro (hsame | ⟨-, -, hpath⟩)
    · have hname : t.qualifiedName = interface.qualifiedName := qualifiedName_of_same hsame
      rw [qualifiedName_of_symbol? ht, qualifiedName_of_symbol? hi] at hname
      exact .inl hname
    · exact .inr hpath
  · rintro (rfl | hpath)
    · obtain rfl : t = interface := Option.some.inj (ht.symm.trans hi)
      exact .inl rfl
    · by_cases hri : r = i
      · subst hri
        obtain rfl : t = interface := Option.some.inj (ht.symm.trans hi)
        exact .inl rfl
      · exact .inr ⟨hkind, Ne.symm hri, hpath⟩

end Sources

end Disposal
