import Disposal.Proofs.Generation

/-!
# Two sets of files that agree

What a pass finds for a type depends on the symbols that lead from the type to others, and on
nothing else of the files.  Two sets of files that agree on these find the same.

* `Sources.itemOf?` is the work item of a name, `Sources.findingsOf` are its findings and
  `Pass.names` the names with work in the order of their candidates; `Pass.Yields` puts a result
  together from them;
* `Sources.Agree` says that two sets of files have the same symbols, up to places, for some names
  that only lead to each other;
* `Sources.Agree.itemOf?_eq` and `Sources.Agree.findingsOf_eq`: then they have the same work items
  and, up to places, the same findings for these names.
-/

namespace Disposal

open Declaration Relation

/-! ### The first of every name -/

/-- Taking the first entry of every name is taking the first occurrences of the names. -/
theorem map_firstBy {α : Type} (name : α → String) (seen : List String) (xs : List α) :
    (firstBy name seen xs).map name =
      (firstOccurrences (xs.map name)).filter fun q => !seen.contains q := by
  induction xs generalizing seen with
  | nil => rfl
  | cons x xs ih =>
    rw [firstBy, List.map_cons, firstOccurrences]
    split_ifs with hx
    · rw [ih, List.filter_cons_of_neg (by simpa using hx), List.filter_filter]
      refine List.filter_congr fun q _ => ?_
      by_cases hq : q = name x
      · rw [hq, hx]; rfl
      · simp [hq]
    · rw [List.map_cons, ih, List.filter_cons_of_pos (by simpa using hx), List.filter_filter]
      congr 1
      refine List.filter_congr fun q _ => ?_
      rw [List.contains_cons, Bool.not_or, Bool.and_comm]
      congr 1
      by_cases hq : q = name x <;> simp [hq]

theorem firstOccurrences_append (xs ys : List String) :
    firstOccurrences (xs ++ ys) =
      firstOccurrences xs ++ (firstOccurrences ys).filter fun q => !xs.contains q := by
  induction xs with
  | nil => simp [firstOccurrences]
  | cons x xs ih =>
    rw [List.cons_append, firstOccurrences, firstOccurrences, ih, List.filter_append,
      List.filter_filter, List.cons_append]
    congr 2
    refine List.filter_congr fun q _ => ?_
    rw [List.contains_cons, Bool.not_or]
    congr 1
    by_cases hq : q = x <;> simp [hq]

/-! ### Files that declare a type -/

/-- A file declares the type named `q`. -/
def SourceFile.DeclaresType (f : SourceFile) (q : String) : Prop :=
  ∃ d ∈ f.typeDecls, d.qualifiedName = q

instance (f : SourceFile) (q : String) : Decidable (f.DeclaresType q) :=
  inferInstanceAs (Decidable (∃ d ∈ f.typeDecls, d.qualifiedName = q))

namespace SourceFile

variable {f : SourceFile} {q : String}

theorem declaresType_iff : f.DeclaresType q ↔ typesOf q f.declarations ≠ [] := by
  rw [DeclaresType, typesOf, ne_eq, List.filter_eq_nil_iff]
  simp [typeDecls]

theorem declaresType_of_lookup {span : Span}
    (h : (Model.bindingsOf f.declarations).lookup span = some q) : f.DeclaresType q := by
  obtain ⟨d, hd, -, hname⟩ := Sources.mem_bindingsOf.1 (Assoc.mem_of_lookup h)
  exact ⟨d, hd, hname⟩

theorem membersIn_of_not_declaresType (h : ¬ f.DeclaresType q) :
    membersIn q f.declarations = [] := by
  have key : ∀ (ds : List Declaration) (seen : List String), q ∉ seen → Owned seen ds →
      typesOf q ds = [] → membersIn q ds = [] := by
    intro ds
    induction ds with
    | nil => exact fun _ _ _ _ => rfl
    | cons d ds ih =>
      intro seen hseen howned hnone
      cases d with
      | type d =>
        by_cases hd : d.qualifiedName = q
        · rw [typesOf_cons_self hd] at hnone
          cases hnone
        · rw [typesOf_cons_of_ne hd] at hnone
          exact ih (d.qualifiedName :: seen) (by simp [hseen, Ne.symm hd]) howned hnone
      | member owner scope m =>
        -- a type whose member comes was seen
        have howner : owner ≠ q := fun heq => hseen (heq ▸ howned.1)
        rw [membersIn_cons_member, if_neg howner]
        exact ih seen hseen howned.2 hnone
      | globalUsing target => exact ih seen hseen howned hnone
      | unnamed kind => exact ih seen hseen howned hnone
  exact key _ [] List.not_mem_nil f.declarations_owned (not_not.1 (declaresType_iff.not.1 h))

end SourceFile

/-! ### Candidates -/

theorem Candidate.map_node_collect (filter : Filter) (files : List SourceFile) :
    (collect filter files).map node =
      files.flatMap fun f => f.root.classDeclarations.filter (filter.accepts f.source) := by
  have hfiles : files.zipIdx.map Prod.fst = files := by simp
  rw [collect, List.map_flatten, List.map_map, ← List.flatMap_def]
  conv_rhs => rw [← hfiles, List.flatMap_map]
  refine List.flatMap_congr fun entry _ => ?_
  simp [ofFile, Function.comp_def]

theorem Candidate.length_collect (filter : Filter) (files : List SourceFile) :
    (collect filter files).length = (files.flatMap fun f =>
      f.root.classDeclarations.filter (filter.accepts f.source)).length := by
  rw [← map_node_collect, List.length_map]

/-- The names that the candidates of a file are recorded under. -/
def SourceFile.boundNames (filter : Filter) (f : SourceFile) : List String :=
  (f.root.classDeclarations.filter (filter.accepts f.source)).filterMap fun n =>
    (Model.bindingsOf f.declarations).lookup n.span

/-- The name that a candidate is recorded under. -/
def Sources.boundName? (S : Sources) (c : Candidate) : Option String :=
  (S.files[c.file]?).bind fun f => (Model.bindingsOf f.declarations).lookup c.node.span

theorem Sources.filterMap_boundName? (S : Sources) (filter : Filter) :
    (Candidate.collect filter S.files).filterMap S.boundName? =
      S.files.flatMap (SourceFile.boundNames filter) := by
  have hfiles : S.files.zipIdx.map Prod.fst = S.files := by simp
  rw [Candidate.collect, ← List.flatMap_def, List.filterMap_flatMap]
  conv_rhs => rw [← hfiles, List.flatMap_map]
  refine List.flatMap_congr fun entry hentry => ?_
  obtain ⟨f, index⟩ := entry
  have hf : S.files[index]? = some f := List.mem_zipIdx_iff_getElem?.1 hentry
  simp [Candidate.ofFile, SourceFile.boundNames, boundName?, Function.comp_def, hf]

theorem SourceFile.declaresType_of_mem_boundNames {filter : Filter} {f : SourceFile} {q : String}
    (h : q ∈ f.boundNames filter) : f.DeclaresType q := by
  obtain ⟨n, -, hlookup⟩ := List.mem_filterMap.1 h
  exact declaresType_of_lookup hlookup

theorem Sources.mem_boundNames (S : Sources) {filter : Filter} {q : String} :
    q ∈ S.files.flatMap (SourceFile.boundNames filter) ↔ S.Bound filter q := by
  simp only [SourceFile.boundNames, List.mem_flatMap, List.mem_filterMap, List.mem_filter,
    Node.mem_classDeclarations]
  constructor
  · rintro ⟨f, hf, n, ⟨⟨hn, -⟩, haccepts⟩, hlookup⟩
    exact ⟨f, hf, n, hn, haccepts, hlookup⟩
  · rintro ⟨f, hf, n, hn, haccepts, hlookup⟩
    exact ⟨f, hf, n, ⟨⟨hn, (Bool.and_eq_true_iff.1 haccepts).1⟩, haccepts⟩, hlookup⟩

/-! ### What is found for a type -/

/-- The work item of a type, if it gets one. -/
def Provider.itemOf? {ν : Type} (P : Provider ν) (interface t : TypeSymbol) : Option WorkItem :=
  if SkipReason.of? t = none ∧ P.implements t interface = true ∧
      hasDisposeMethod (P.members t) = false then some (P.workItem t interface)
  else none

theorem Provider.itemOf?_eq_some {ν : Type} {P : Provider ν} {interface t : TypeSymbol}
    {item : WorkItem} : P.itemOf? interface t = some item ↔
      SkipReason.of? t = none ∧ P.implements t interface = true ∧
        hasDisposeMethod (P.members t) = false ∧ P.workItem t interface = item := by
  rw [itemOf?]
  split_ifs with h
  · simp [h]
  · constructor
    · rintro ⟨⟩
    · rintro ⟨hskip, himpl, hopen, -⟩
      exact absurd ⟨hskip, himpl, hopen⟩ h

theorem Provider.workOf?_eq {ν : Type} (P : Provider ν) (interface : TypeSymbol) (node : ν) :
    P.workOf? interface node = (P.declaration? node).bind fun t =>
      (P.itemOf? interface t).map fun item => (item, t, node) := by
  ext w
  simp only [workOf?_eq_some, Option.bind_eq_some_iff, Option.map_eq_some_iff, itemOf?_eq_some]
  constructor
  · rintro ⟨t, hdecl, hskip, himpl, hopen, rfl⟩
    exact ⟨t, hdecl, _, ⟨hskip, himpl, hopen, rfl⟩, rfl⟩
  · rintro ⟨t, hdecl, _, ⟨hskip, himpl, hopen, rfl⟩, rfl⟩
    exact ⟨t, hdecl, hskip, himpl, hopen, rfl⟩

namespace Sources

variable {S T : Sources} {i q : String}

/-- The work item of the type named `q`, if it gets one. -/
def itemOf? (S : Sources) (i q : String) : Option WorkItem :=
  (S.symbol? i).bind fun interface => (S.symbol? q).bind (S.model.provider.itemOf? interface)

/-- The findings of some checks on the type named `q`, if it gets code. -/
def findingsOf (S : Sources) (checks : List Diagnostic) (i q : String) : List Finding :=
  ((S.symbol? q).bind fun t => (S.itemOf? i q).map fun item =>
    checks.flatMap fun d => d.run item t (S.model.membersOf q)).getD []

theorem itemOf?_eq_some {item : WorkItem} : S.itemOf? i q = some item ↔
    ∃ interface t, S.symbol? i = some interface ∧ S.symbol? q = some t ∧
      SkipReason.of? t = none ∧ S.model.provider.implements t interface = true ∧
      hasDisposeMethod (S.model.provider.members t) = false ∧
      S.model.provider.workItem t interface = item := by
  simp only [itemOf?, Option.bind_eq_some_iff, Provider.itemOf?_eq_some]
  constructor
  · rintro ⟨interface, hi, t, ht, h⟩
    exact ⟨interface, t, hi, ht, h⟩
  · rintro ⟨interface, t, hi, ht, h⟩
    exact ⟨interface, hi, t, ht, h⟩

theorem qualifiedName_of_itemOf? {item : WorkItem} (h : S.itemOf? i q = some item) :
    item.qualifiedName = q ∧ item.namespaceName ≠ "" := by
  obtain ⟨interface, t, -, ht, hskip, -, -, rfl⟩ := itemOf?_eq_some.1 h
  rw [← qualifiedName_of_symbol? ht, (qualifiedName_of_place hskip).1]
  exact ⟨rfl, (skipReason_eq_none.1 hskip).2.2⟩

theorem findingsOf_of_item {t : TypeSymbol} {item : WorkItem} (ht : S.symbol? q = some t)
    (hitem : S.itemOf? i q = some item) (checks : List Diagnostic) :
    S.findingsOf checks i q = checks.flatMap fun d => d.run item t (S.model.membersOf q) := by
  rw [findingsOf, ht, hitem]
  rfl

theorem findingsOf_of_none (hitem : S.itemOf? i q = none) (checks : List Diagnostic) :
    S.findingsOf checks i q = [] := by
  rw [findingsOf, hitem]
  cases S.symbol? q <;> rfl

theorem map_workName_workOf? {interface : TypeSymbol} (hi : S.symbol? i = some interface)
    (c : Candidate) : (S.model.provider.workOf? interface c).map Provider.workName =
      (S.boundName? c).filter fun q => (S.itemOf? i q).isSome := by
  have hdecl : S.model.provider.declaration? c = (S.boundName? c).bind S.symbol? := by
    rw [declaration?_provider, boundName?, Option.bind_assoc]
  rw [Provider.workOf?_eq, hdecl]
  cases S.boundName? c with
  | none => rfl
  | some q =>
    rw [Option.bind_some, Option.filter, itemOf?, hi, Option.bind_some]
    cases ht : S.symbol? q with
    | none => rfl
    | some t =>
      rw [Option.bind_some, Option.bind_some]
      cases S.model.provider.itemOf? interface t with
      | none => rfl
      | some item => simp [Provider.workName, qualifiedName_of_symbol? ht]

end Sources

/-! ### The result of a pass -/

namespace Pass

variable {config : Config} {files : List SourceFile} {q : String}

/-- The names of the types with work, in the order of their candidates. -/
def names (config : Config) (files : List SourceFile) : List String :=
  firstOccurrences ((files.flatMap (SourceFile.boundNames config.filter)).filter fun q =>
    ((config.sources files).itemOf? config.disposalInterface q).isSome)

theorem map_workName_work :
    (work config files).map Provider.workName = names config files := by
  have hbound : (Candidate.collect config.filter files).filterMap
      (config.sources files).boundName? = files.flatMap (SourceFile.boundNames config.filter) :=
    (config.sources files).filterMap_boundName? config.filter
  rw [work, names]
  cases hi : (config.sources files).symbol? config.disposalInterface with
  | none =>
    have hnone : ∀ q, (config.sources files).itemOf? config.disposalInterface q = none := by
      intro q
      rw [Sources.itemOf?, hi, Option.bind_none]
    -- without the interface nothing has work
    simp [hnone, firstOccurrences]
  | some interface =>
    rw [Option.elim_some, map_firstBy, List.map_filterMap]
    simp only [Sources.map_workName_workOf? hi, List.contains_nil, Bool.not_false,
      List.filter_true]
    rw [← List.filter_filterMap, hbound]

theorem itemOf?_of_mem_work {w : WorkItem × TypeSymbol × Candidate} (h : w ∈ work config files) :
    (config.sources files).symbol? (Provider.workName w) = some w.2.1 ∧
      (config.sources files).itemOf? config.disposalInterface (Provider.workName w) =
        some w.1 := by
  obtain ⟨interface, hi, ht, -, hitem⟩ := mem_work h
  have hname : Provider.workName w ∈ names config files := by
    rw [← map_workName_work]
    exact List.mem_map_of_mem h
  obtain ⟨item, hsome⟩ := Option.isSome_iff_exists.1
    (List.mem_filter.1 (Sources.mem_firstOccurrences.1 hname)).2
  -- the interface and the type of the name are those that the work was found with
  obtain ⟨interface', t, hi', ht', -, -, -, rfl⟩ := Sources.itemOf?_eq_some.1 hsome
  obtain rfl := Option.some.inj (hi.symm.trans hi')
  obtain rfl := Option.some.inj (ht.symm.trans ht')
  exact ⟨ht, hitem ▸ hsome⟩

/-- A result is put together from what is found for the names with work. -/
structure Yields (config : Config) (files : List SourceFile) (result : PassResult) : Prop where
  workItems : result.workItems = (names config files).filterMap
    ((config.sources files).itemOf? config.disposalInterface)
  artifacts : result.artifacts = result.workItems.map fun item =>
    (item.artifactKey config.artifactSuffix, item.render)
  keys : (result.artifacts.map Prod.fst).Nodup
  findings : result.findings = (names config files).flatMap
    ((config.sources files).findingsOf config.enabledDiagnostics config.disposalInterface)
  candidateCount : result.candidateCount = (Candidate.collect config.filter files).length

/-- **The result of a pass** is put together from what is found for the names with work. -/
theorem exists_yields (config : Config) (files : List SourceFile) :
    ∃ result, (ofFiles config files).result = .ok result ∧ Yields config files result := by
  have hresult : (ofFiles config files).result? =
      some (.ofWork (config.sources files).model.provider config files
        (Candidate.collect config.filter files) (work config files)) := by
    rw [result?, resolved?_ofFiles]
    rfl
  refine ⟨_, result_eq_ok hresult, ?_, artifacts_of_result (result_eq_ok hresult),
    nodup_keys_renderAll _ _, ?_, rfl⟩
  · show (work config files).map Prod.fst = _
    rw [← map_workName_work, List.filterMap_map, ← List.filterMap_eq_map]
    exact List.filterMap_congr fun w hw => (itemOf?_of_mem_work hw).2.symm
  · show runDiagnostics _ _ ((work config files).map _) = _
    rw [← map_workName_work, runDiagnostics, List.flatMap_map, List.flatMap_map]
    refine List.flatMap_congr fun w hw => ?_
    obtain ⟨ht, hitem⟩ := itemOf?_of_mem_work hw
    rw [Sources.findingsOf_of_item ht hitem]
    rfl

theorem mem_names : q ∈ names config files ↔ (config.sources files).Bound config.filter q ∧
    ((config.sources files).itemOf? config.disposalInterface q).isSome = true := by
  rw [names, Sources.mem_firstOccurrences, List.mem_filter]
  have hbound : q ∈ files.flatMap (SourceFile.boundNames config.filter) ↔
      (config.sources files).Bound config.filter q := (config.sources files).mem_boundNames
  rw [hbound]

theorem declaresType_of_mem_names (hq : q ∈ names config files) :
    ∃ f ∈ files, f.DeclaresType q := by
  obtain ⟨⟨f, hf, n, -, -, hlookup⟩, -⟩ := mem_names.1 hq
  exact ⟨f, hf, SourceFile.declaresType_of_lookup hlookup⟩

theorem nodup_names : (names config files).Nodup := by
  rw [← map_workName_work]
  exact nodup_workNames

end Pass

/-! ### Agreement -/

theorem TypeSymbol.Same.congr {α : Type} {s t : TypeSymbol} (h : s.Same t) (g : TypeSymbol → α)
    (hg : ∀ t, g t.unlocated = g t) : g s = g t := by
  have hunlocated : s.unlocated = t.unlocated := h
  rw [← hg s, hunlocated, hg t]

/-- The member without its location. -/
def MemberSymbol.unlocated (m : MemberSymbol) : MemberSymbol := { m with location := none }

/-- The finding without its location. -/
def Finding.unlocated (f : Finding) : Finding := { f with location := none }

/-- The findings on a type and its members, up to places, do not depend on places. -/
theorem Diagnostic.map_unlocated_run (d : Diagnostic) (item : WorkItem) (t : TypeSymbol)
    (ms : List MemberSymbol) : (d.run item t ms).map Finding.unlocated =
      (d.run item t.unlocated (ms.map MemberSymbol.unlocated)).map Finding.unlocated := by
  cases d with
  | nothingToDispose => unfold run; split_ifs <;> rfl
  | notPartial => unfold run; rw [TypeSymbol.unlocated]; split_ifs <;> rfl
  | hookSignature =>
    simp only [run, List.filter_map, List.map_map]
    rfl

theorem hasCleanupHook_unlocated (ms : List MemberSymbol) (name : String) :
    hasCleanupHook (ms.map MemberSymbol.unlocated) name = hasCleanupHook ms name := by
  rw [hasCleanupHook, List.any_map]
  rfl

theorem Provider.disposableMemberNames_unlocated {ν : Type} (P : Provider ν)
    (ms : List MemberSymbol) (interface : TypeSymbol) :
    P.disposableMemberNames (ms.map MemberSymbol.unlocated) interface =
      P.disposableMemberNames ms interface := by
  rw [disposableMemberNames, List.filter_map, List.map_map]
  rfl

namespace Sources

theorem symbolOf_eq_of_resolver {S T : Sources} (h : S.resolver = T.resolver) :
    S.symbolOf = T.symbolOf := by
  funext first all
  rw [symbolOf, symbolOf, h]

/-- Two sets of files agree on the names that `own` holds of: up to places they have the same
symbols for them, and what these symbols lead to is again among them. -/
structure Agree (own : String → Prop) (S T : Sources) : Prop where
  symbol : ∀ q, own q →
    (S.symbol? q).map TypeSymbol.unlocated = (T.symbol? q).map TypeSymbol.unlocated
  members : ∀ q, own q → q ≠ "" → (S.model.membersOf q).map MemberSymbol.unlocated =
    (T.model.membersOf q).map MemberSymbol.unlocated
  bases : ∀ q t, own q → S.symbol? q = some t → ∀ b ∈ t.baseNames, own b
  types : ∀ q, own q → q ≠ "" → ∀ m ∈ S.model.membersOf q, ∀ r ∈ m.declaredType, own r

namespace Agree

variable {own : String → Prop} {S T : Sources} {i q : String}

theorem exists_symbol (h : Agree own S T) (hq : own q) {t : TypeSymbol}
    (ht : S.symbol? q = some t) : ∃ t', T.symbol? q = some t' ∧ t'.Same t := by
  have hsome := h.symbol q hq
  rw [ht, Option.map_some, eq_comm, Option.map_eq_some_iff] at hsome
  exact hsome

theorem symm (h : Agree own S T) : Agree own T S where
  symbol q hq := (h.symbol q hq).symm
  members q hq hne := (h.members q hq hne).symm
  bases q t hq ht b hb := by
    obtain ⟨t', ht', hsame⟩ : ∃ t', S.symbol? q = some t' ∧ t'.Same t := by
      have hsome := h.symbol q hq
      rw [ht, Option.map_some, Option.map_eq_some_iff] at hsome
      exact hsome
    have hnames : t'.baseNames = t.baseNames := hsame.congr _ fun _ => rfl
    exact h.bases q t' hq ht' b (hnames ▸ hb)
  types q hq hne m hm r hr := by
    have hmem : m.unlocated ∈ (S.model.membersOf q).map MemberSymbol.unlocated := by
      rw [h.members q hq hne]
      exact List.mem_map_of_mem hm
    obtain ⟨m', hm', hsame⟩ := List.mem_map.1 hmem
    have htype : m'.unlocated.declaredType = m.unlocated.declaredType := by rw [hsame]
    exact h.types q hq hne m' hm' r (htype ▸ hr)

/-- **The paths along base names are the same**, and stay among the names agreed on. -/
theorem leads (h : Agree own S T) (hq : own q)
    (hpath : TransGen S.model.types.Extends q i) :
    own i ∧ TransGen T.model.types.Extends q i := by
  -- one step from a name agreed on
  have step : ∀ a b, own a → S.model.types.Extends a b →
      own b ∧ T.model.types.Extends a b := by
    rintro a b ha ⟨t, ht, hb⟩
    rw [get?_model] at ht
    obtain ⟨t', ht', hsame⟩ := h.exists_symbol ha ht
    have hnames : t'.baseNames = t.baseNames := hsame.congr _ fun _ => rfl
    exact ⟨h.bases a t ha ht b hb, t', by rw [get?_model]; exact ht', hnames ▸ hb⟩
  induction hpath with
  | single hstep =>
    obtain ⟨hown, hstep⟩ := step _ _ hq hstep
    exact ⟨hown, .single hstep⟩
  | tail _ hstep ih =>
    obtain ⟨hown, hstep⟩ := step _ _ ih.1 hstep
    exact ⟨hown, ih.2.tail hstep⟩

/-- What a type implements it also implements in the other files, and its name is one of those
agreed on. -/
theorem implements (h : Agree own S T) (hq : own q) {t t' interface : TypeSymbol}
    (ht : S.symbol? q = some t) (ht' : T.symbol? q = some t')
    (hi : S.symbol? i = some interface)
    (himpl : S.model.provider.implements t interface = true) :
    ∃ interface', own i ∧ T.symbol? i = some interface' ∧ interface'.Same interface ∧
      T.model.provider.implements t' interface' = true := by
  obtain ⟨hkind, hne, hbased⟩ := (implements_iff ht hi).1 himpl
  have hknown : S.known i = true := by rw [← isSome_symbol?, hi]; rfl
  obtain ⟨hown, hpath⟩ := h.leads hq ((transGen_extends hknown).2 hbased)
  obtain ⟨interface', hi', hsame⟩ := h.exists_symbol hown hi
  have hknown' : T.known i = true := by rw [← isSome_symbol?, hi']; rfl
  have hkind' : interface'.kind = interface.kind := hsame.congr _ fun _ => rfl
  refine ⟨interface', hown, hi', hsame, (implements_iff ht' hi').2 ⟨hkind'.trans hkind, hne, ?_⟩⟩
  exact (transGen_extends hknown').1 hpath

theorem isOrImplements (h : Agree own S T) {r : String} (hr : own r) (hi : own i)
    {t t' interface interface' : TypeSymbol} (ht : S.symbol? r = some t)
    (ht' : T.symbol? r = some t') (hs : S.symbol? i = some interface)
    (hs' : T.symbol? i = some interface')
    (himpl : S.model.provider.isOrImplements t interface = true) :
    T.model.provider.isOrImplements t' interface' = true := by
  rw [Provider.isOrImplements, Bool.or_eq_true, decide_eq_true_eq] at himpl ⊢
  obtain ⟨u, hu, hsame⟩ := h.exists_symbol hr ht
  obtain rfl := Option.some.inj (hu.symm.trans ht')
  obtain ⟨v, hv, hsame'⟩ := h.exists_symbol hi hs
  obtain rfl := Option.some.inj (hv.symm.trans hs')
  -- the type is the interface itself, or it implements it
  refine himpl.imp (fun heq => (hsame.trans heq).trans hsame'.symm) fun himpl => ?_
  obtain ⟨w, -, hw, -, himpl'⟩ := h.implements hr ht ht' hs himpl
  obtain rfl := Option.some.inj (hw.symm.trans hs')
  exact himpl'

theorem any_isOrImplements (h : Agree own S T) {r : String} (hr : own r) (hi : own i)
    {interface interface' : TypeSymbol} (hs : S.symbol? i = some interface)
    (hs' : T.symbol? i = some interface') :
    (S.symbol? r).any (fun t => S.model.provider.isOrImplements t interface) =
      (T.symbol? r).any fun t => T.model.provider.isOrImplements t interface' := by
  have half : ∀ {S T : Sources} {interface interface' : TypeSymbol}, Agree own S T →
      S.symbol? i = some interface → T.symbol? i = some interface' →
      (S.symbol? r).any (fun t => S.model.provider.isOrImplements t interface) = true →
      (T.symbol? r).any (fun t => T.model.provider.isOrImplements t interface') = true := by
    intro S T interface interface' h hs hs' hany
    obtain ⟨t, ht, himpl⟩ := (Option.any_eq_true ..).1 hany
    obtain ⟨t', ht', -⟩ := h.exists_symbol hr ht
    exact (Option.any_eq_true ..).2 ⟨t', ht', h.isOrImplements hr hi ht ht' hs hs' himpl⟩
  exact Bool.eq_iff_iff.2 ⟨half h hs hs', half h.symm hs' hs⟩

theorem disposableMemberNames_eq (h : Agree own S T) (hq : own q) (hne : q ≠ "") (hi : own i)
    {interface interface' : TypeSymbol} (hs : S.symbol? i = some interface)
    (hs' : T.symbol? i = some interface') :
    S.model.provider.disposableMemberNames (S.model.membersOf q) interface =
      T.model.provider.disposableMemberNames (T.model.membersOf q) interface' := by
  have hget : S.model.provider.typeNamed? = S.symbol? := funext get?_model
  have hget' : T.model.provider.typeNamed? = T.symbol? := funext get?_model
  have hdisposable : ∀ m ∈ (S.model.membersOf q).map MemberSymbol.unlocated,
      (m.declaredType.bind S.symbol?).any
          (fun t => S.model.provider.isOrImplements t interface) =
        (m.declaredType.bind T.symbol?).any
          fun t => T.model.provider.isOrImplements t interface' := by
    intro m hm
    obtain ⟨m, hmem, rfl⟩ := List.mem_map.1 hm
    have htype : m.unlocated.declaredType = m.declaredType := rfl
    rw [htype]
    cases hr : m.declaredType with
    | none => simp only [Option.bind_none, Option.any_none]
    | some r => exact h.any_isOrImplements (h.types q hq hne m hmem r hr) hi hs hs'
  rw [← S.model.provider.disposableMemberNames_unlocated,
    ← T.model.provider.disposableMemberNames_unlocated, ← h.members q hq hne,
    Provider.disposableMemberNames, Provider.disposableMemberNames, hget, hget']
  refine congrArg (List.map MemberSymbol.name) (List.filter_congr fun m hm => ?_)
  rw [hdisposable m hm]

theorem itemOf?_eq_some (h : Agree own S T) (hq : own q) {item : WorkItem}
    (hitem : S.itemOf? i q = some item) : T.itemOf? i q = some item := by
  obtain ⟨interface, t, hs, ht, hskip, himpl, hopen, rfl⟩ := Sources.itemOf?_eq_some.1 hitem
  obtain ⟨t', ht', hsame⟩ := h.exists_symbol hq ht
  -- nothing is assumed of the interface: a path along base names leads to it, so it is agreed on
  obtain ⟨interface', hi, hs', -, himpl'⟩ := h.implements hq ht ht' hs himpl
  have hne : q ≠ "" := qualifiedName_of_symbol? ht ▸ (qualifiedName_of_place hskip).2
  have hhook : ∀ name, hasCleanupHook (T.model.membersOf q) name =
      hasCleanupHook (S.model.membersOf q) name := by
    intro name
    rw [← hasCleanupHook_unlocated, ← h.members q hq hne, hasCleanupHook_unlocated]
  refine Sources.itemOf?_eq_some.2 ⟨interface', t', hs', ht', ?_, himpl', ?_, ?_⟩
  · rw [← hskip]
    exact hsame.congr _ fun _ => rfl
  · rw [hasDisposeMethod, members_provider ht', hhook, ← members_provider ht]
    exact hopen
  · have hnamespace : t'.namespaceName = t.namespaceName := hsame.congr _ fun _ => rfl
    have hname : t'.name = t.name := hsame.congr _ fun _ => rfl
    have haccess : t'.accessibility = t.accessibility := hsame.congr _ fun _ => rfl
    rw [Provider.workItem, Provider.workItem, members_provider ht, members_provider ht', hhook,
      hhook, h.disposableMemberNames_eq hq hne hi hs hs', hnamespace, hname, haccess]

/-- **Agreement keeps the work items.** -/
theorem itemOf?_eq (h : Agree own S T) (hq : own q) : S.itemOf? i q = T.itemOf? i q := by
  ext item
  exact ⟨h.itemOf?_eq_some hq, h.symm.itemOf?_eq_some hq⟩

/-- **Agreement keeps the findings**, up to their places. -/
theorem findingsOf_eq (h : Agree own S T) (hq : own q) (checks : List Diagnostic) :
    (S.findingsOf checks i q).map Finding.unlocated =
      (T.findingsOf checks i q).map Finding.unlocated := by
  cases hitem : S.itemOf? i q with
  | none => rw [findingsOf_of_none hitem, findingsOf_of_none ((h.itemOf?_eq hq).symm.trans hitem)]
  | some item =>
    obtain ⟨interface, t, -, ht, hskip, -⟩ := Sources.itemOf?_eq_some.1 hitem
    obtain ⟨t', ht', hsame⟩ := h.exists_symbol hq ht
    have hne : q ≠ "" := qualifiedName_of_symbol? ht ▸ (qualifiedName_of_place hskip).2
    have hunlocated : t'.unlocated = t.unlocated := hsame
    rw [findingsOf_of_item ht hitem, findingsOf_of_item ht' (h.itemOf?_eq_some hq hitem),
      List.map_flatMap, List.map_flatMap]
    refine List.flatMap_congr fun d _ => ?_
    rw [d.map_unlocated_run, d.map_unlocated_run item t', hunlocated, h.members q hq hne]

end Agree

end Sources

end Disposal
