import Disposal.Proofs.Delivery
import Disposal.Proofs.Meaning
import Disposal.Reader

/-!
# Which types get code, and which code

A pass over some files, from the trees to the work items, in terms of what the files mean.

* `Sources.HasMethod` says that a type has some method, `Sources.hasMethod_iff` tells this by nodes;
* `Sources.Eligible` are the conditions on a type, `Sources.Bound` says that one of its
  declarations is a candidate, and `Pass.mem_workNames` puts them together;
* `Qualifies` is the whole of it for files whose type declarations stand at different places;
* `Describes` says what is in a work item.
-/

namespace Disposal

open Declaration Relation

/-! ### Methods of a type -/

/-- A member is the method `void name()` without type parameters. -/
def MemberDecl.IsParameterlessVoid (name : String) (m : MemberDecl) : Prop :=
  m.kind = .method ∧ m.name = name ∧ m.parameterCount = 0 ∧ m.typeParameterCount = 0 ∧
    m.returnsVoid = true

/-- A node declares the method `void name()` without type parameters. -/
structure Node.DeclaresVoid (source : Text.Bytes) (name : String) (n : Node) : Prop where
  method : n.kind = "method_declaration"
  named : ∃ c, n.childInField? "name" = some c ∧ c.name source = name
  returned : ∃ r, (n.childInField? "returns").or (n.childInField? "type") = some r ∧
    r.name source = "void"
  parameters : ∀ p, (n.childInField? "parameters").or (n.childOfKind? "parameter_list") = some p →
    ∀ c ∈ p.namedChildren, c.kind ≠ "parameter" ∧ c.kind ≠ "parameter_array"
  typeParameters : ∀ p,
    (n.childInField? "type_parameters").or (n.childOfKind? "type_parameter_list") = some p →
    ∀ c ∈ p.namedChildren, c.kind ≠ "type_parameter"

theorem MemberDecl.exists_isParameterlessVoid_iff {f : SourceFile} {n : Node} {name : String} :
    (∃ m ∈ ofNode f n, m.IsParameterlessVoid name) ↔ n.DeclaresVoid f.source name := by
  constructor
  · rintro ⟨m, hm, hkind, rfl, hcount, htypes, hvoid⟩
    obtain ⟨-, -, h⟩ := mem_ofNode_iff.1 hm
    simp only [hkind, reduceCtorEq, false_and, and_false, false_or, true_and] at h
    obtain ⟨hnode, ⟨c, hc, hname⟩, -, hparameters, htypeParameters, hreturns⟩ := h
    refine ⟨hnode, ⟨c, hc, hname.symm⟩, hreturns.1 hvoid, ?_, ?_⟩
    · simpa using countChildren_eq_zero.1 (hparameters.symm.trans hcount)
    · simpa using countChildren_eq_zero.1 (htypeParameters.symm.trans htypes)
  · rintro ⟨hnode, ⟨c, hc, rfl⟩, hreturns, hparameters, htypeParameters⟩
    let m : MemberDecl :=
      { name := c.name f.source, kind := .method, returnsVoid := true,
        isStatic := (n.modifiers f.source).contains "static" ||
          (n.modifiers f.source).contains "const"
        location := some (f.locate n) }
    refine ⟨m, mem_ofNode_iff.2 ⟨rfl, isStatic_iff, .inr (.inr (.inr
      ⟨hnode, rfl, ⟨c, hc, rfl⟩, rfl, ?_, ?_, iff_of_true rfl hreturns⟩))⟩, rfl, rfl, rfl, rfl, rfl⟩
    · exact (countChildren_eq_zero.2 (by simpa using hparameters)).symm
    · exact (countChildren_eq_zero.2 (by simpa using htypeParameters)).symm

namespace Sources

variable {S : Sources} {i q : String}

/-- Some declaration of the type named `q` has the method `void name()`. -/
def HasMethod (S : Sources) (q name : String) : Prop :=
  ∃ entry ∈ S.declarationsOf q, ∃ m ∈ entry.2.members entry.1, m.IsParameterlessVoid name

theorem hasMethod_iff_exists_mem {name : String} : S.HasMethod q name ↔
    ∃ entry ∈ S.declarationsOf q, ∃ n ∈ entry.2.node.memberNodes,
      ∃ m ∈ MemberDecl.ofNode entry.1 n, m.IsParameterlessVoid name := by
  refine exists_congr fun entry => and_congr_right fun _ => ?_
  constructor
  · rintro ⟨m, hm, hvoid⟩
    obtain ⟨n, hn, hm⟩ := List.mem_flatMap.1 hm
    exact ⟨n, (List.mem_filter.1 hn).1, m, hm, hvoid⟩
  · rintro ⟨n, hn, m, hm, hvoid⟩
    have hplain : n.typeKind?.isNone = true := by rw [MemberDecl.typeKind?_of_mem hm]; rfl
    exact ⟨m, List.mem_flatMap.2 ⟨n, List.mem_filter.2 ⟨hn, hplain⟩, hm⟩, hvoid⟩

/-- **The methods of a type**, told by the nodes in the bodies of its declarations. -/
theorem hasMethod_iff {name : String} : S.HasMethod q name ↔
    ∃ entry ∈ S.declarationsOf q, ∃ n ∈ entry.2.node.memberNodes,
      n.DeclaresVoid entry.1.source name := by
  simp only [hasMethod_iff_exists_mem, MemberDecl.exists_isParameterlessVoid_iff]

theorem isParameterlessVoid_memberSymbol {name : String} {m : MemberDecl} {scope : Scope} :
    (S.resolver.memberSymbol m scope).isParameterlessVoid name = true ↔
      m.IsParameterlessVoid name := by
  simp only [MemberSymbol.isParameterlessVoid, Model.Resolver.memberSymbol, Bool.and_eq_true,
    beq_iff_eq, MemberDecl.IsParameterlessVoid, and_assoc, Int.ofNat_eq_natCast,
    Int.natCast_eq_zero]

theorem members_provider {t : TypeSymbol} (ht : S.symbol? q = some t) :
    S.model.provider.members t = S.model.membersOf q := by
  rw [← qualifiedName_of_symbol? ht]
  rfl

theorem hasCleanupHook_model (hq : q ≠ "") {name : String} :
    hasCleanupHook (S.model.membersOf q) name = true ↔ S.HasMethod q name := by
  rw [hasCleanupHook, membersOf_model hq, List.any_eq_true]
  constructor
  · rintro ⟨_, hmem, hvoid⟩
    obtain ⟨entry, hentry, hm⟩ := List.mem_flatMap.1 hmem
    obtain ⟨m, hwritten, rfl⟩ := List.mem_map.1 hm
    exact ⟨entry, hentry, m, hwritten, isParameterlessVoid_memberSymbol.1 hvoid⟩
  · rintro ⟨entry, hentry, m, hm, hvoid⟩
    exact ⟨_, List.mem_flatMap.2 ⟨entry, hentry, List.mem_map_of_mem hm⟩,
      isParameterlessVoid_memberSymbol.2 hvoid⟩

/-! ### Conditions on a type -/

/-- The conditions on the type named `q` to get code for the disposal interface named `i`, apart
from being a candidate. -/
structure Eligible (S : Sources) (i q : String) : Prop where
  /-- The disposal interface is a known interface. -/
  interface : S.kindOf? i = some .interfaceType
  /-- The first declaration is a class, not nested and in a namespace. -/
  place : ∃ f first rest, S.declarationsOf q = (f, first) :: rest ∧ first.kind = .classType ∧
    first.containingType = none ∧ first.namespaceName ≠ ""
  /-- The disposal interface is among the bases of the type and their bases. -/
  based : TransGen S.Base q i
  /-- No declaration has a method `void Dispose()`. -/
  undisposed : ¬ S.HasMethod q disposeMethod

/-- A class is no interface. -/
theorem Eligible.ne (h : S.Eligible i q) : i ≠ q := by
  obtain ⟨f, first, rest, hds, hkind, -⟩ := h.place
  have hinterface := h.interface
  rintro rfl
  rw [kindOf?, hds] at hinterface
  cases hkind.symm.trans (Option.some.inj hinterface)

theorem joinName_ne_empty {outer name : String} (h : outer ≠ "") : joinName outer name ≠ "" := by
  rw [joinName, if_neg h]
  exact ne_empty_of_dot outer name

theorem qualifiedName_of_place {t : TypeSymbol} (h : SkipReason.of? t = none) :
    t.qualifiedName = joinName t.namespaceName t.name ∧ t.qualifiedName ≠ "" := by
  obtain ⟨-, hcontaining, hnamespace⟩ := skipReason_eq_none.1 h
  have hname : t.qualifiedName = joinName t.namespaceName t.name := by
    rw [TypeSymbol.qualifiedName, hcontaining]
  exact ⟨hname, hname ▸ joinName_ne_empty hnamespace⟩

/-- The resolver's conditions on a declared type are the conditions on the files. -/
theorem eligible_iff {t : TypeSymbol} (ht : S.symbol? q = some t) (hq : S.declarationsOf q ≠ []) :
    S.Eligible i q ↔ ∃ interface, S.symbol? i = some interface ∧ SkipReason.of? t = none ∧
      S.model.provider.implements t interface = true ∧
      hasDisposeMethod (S.model.provider.members t) = false := by
  obtain ⟨⟨f, first⟩, rest, hds⟩ := List.exists_cons_of_ne_nil hq
  -- the place of a type is that of its first declaration
  obtain rfl : t = S.symbolOf first (((f, first) :: rest).map Prod.snd) := by
    rw [symbol?, hds] at ht
    exact (Option.some.inj ht).symm
  have hname := qualifiedName_of_symbol? ht
  constructor
  · intro h
    obtain ⟨f', first', rest', hds', hkind, hcontaining, hnamespace⟩ := h.place
    rw [hds] at hds'
    cases hds'
    obtain ⟨interface, hi, hikind⟩ := kindOf?_eq_some.1 h.interface
    have hplace : SkipReason.of? (S.symbolOf first (((f, first) :: rest).map Prod.snd)) = none :=
      skipReason_eq_none.2 ⟨hkind, hcontaining, hnamespace⟩
    refine ⟨interface, hi, hplace, (implements_iff ht hi).2 ⟨hikind, h.ne, h.based⟩, ?_⟩
    rw [← Bool.not_eq_true, hasDisposeMethod, members_provider ht,
      hasCleanupHook_model (hname ▸ (qualifiedName_of_place hplace).2)]
    exact h.undisposed
  · rintro ⟨interface, hi, hplace, himplements, hopen⟩
    obtain ⟨hikind, -, hbased⟩ := (implements_iff ht hi).1 himplements
    refine ⟨kindOf?_eq_some.2 ⟨interface, hi, hikind⟩,
      ⟨f, first, rest, hds, skipReason_eq_none.1 hplace⟩, hbased, fun hmethod => ?_⟩
    rw [← hasCleanupHook_model (hname ▸ (qualifiedName_of_place hplace).2)] at hmethod
    rw [hasDisposeMethod, members_provider ht, hmethod] at hopen
    cases hopen

/-! ### Candidates -/

/-- Some candidate is recorded under the name `q`: an accepted node stands at the place where the
last declaration recorded there declares `q`. -/
def Bound (S : Sources) (filter : Filter) (q : String) : Prop :=
  ∃ f ∈ S.files, ∃ n ∈ f.root.preorder, filter.accepts f.source n = true ∧
    (Model.bindingsOf f.declarations).lookup n.span = some q

theorem mem_collect {filter : Filter} {files : List SourceFile} {c : Candidate} :
    c ∈ Candidate.collect filter files ↔ ∃ f, files[c.file]? = some f ∧
      c.node ∈ f.root.preorder ∧ filter.accepts f.source c.node = true := by
  simp only [Candidate.collect, Candidate.ofFile, List.mem_flatten, List.mem_map]
  constructor
  · rintro ⟨_, ⟨⟨f, index⟩, hf, rfl⟩, hc⟩
    obtain ⟨n, hn, rfl⟩ := List.mem_map.1 hc
    obtain ⟨hclass, haccepts⟩ := List.mem_filter.1 hn
    exact ⟨f, List.mem_zipIdx_iff_getElem?.1 hf, (Node.mem_classDeclarations.1 hclass).1, haccepts⟩
  · rintro ⟨f, hf, hn, haccepts⟩
    have hclass : c.node.isClass = true := (Bool.and_eq_true_iff.1 haccepts).1
    have hnode : c.node ∈ f.root.classDeclarations.filter (filter.accepts f.source) :=
      List.mem_filter.2 ⟨Node.mem_classDeclarations.2 ⟨hn, hclass⟩, haccepts⟩
    exact ⟨_, ⟨(f, c.file), List.mem_zipIdx_iff_getElem?.2 hf, rfl⟩,
      List.mem_map.2 ⟨c.node, hnode, rfl⟩⟩

theorem declaration?_provider (c : Candidate) : S.model.provider.declaration? c =
    (S.files[c.file]?).bind fun f =>
      ((Model.bindingsOf f.declarations).lookup c.node.span).bind S.symbol? := by
  have hget : S.model.types.get? = S.symbol? := funext get?_model
  have hbindings : S.model.bindings = S.files.map fun f => Model.bindingsOf f.declarations := by
    rw [model_eq]
  show S.model.declaration? c = _
  rw [Model.declaration?, hget, hbindings, List.getElem?_map]
  cases S.files[c.file]? <;> rfl

theorem bindingsOf_eq (ds : List Declaration) :
    Model.bindingsOf ds = ((typesIn ds).map fun d => (d.span, d.qualifiedName)).reverse := by
  rw [Model.bindingsOf, typesIn, List.map_filterMap]
  congr 2
  funext e
  cases e <;> rfl

theorem mem_bindingsOf {ds : List Declaration} {span : Span} :
    (span, q) ∈ Model.bindingsOf ds ↔ ∃ d ∈ typesIn ds, d.span = span ∧ d.qualifiedName = q := by
  simp [bindingsOf_eq]

theorem declarationsOf_ne_nil_of_lookup {f : SourceFile} (hf : f ∈ S.files) {span : Span}
    (h : (Model.bindingsOf f.declarations).lookup span = some q) : S.declarationsOf q ≠ [] := by
  obtain ⟨d, hd, -, hq⟩ := mem_bindingsOf.1 (Assoc.mem_of_lookup h)
  exact List.ne_nil_of_mem (mem_declarationsOf.2 ⟨hf, hd, hq⟩)

/-- Some candidate gives work for the name `q` exactly if `q` is bound and eligible. -/
theorem exists_workOf?_iff {filter : Filter} :
    (∃ interface, S.symbol? i = some interface ∧
      q ∈ ((Candidate.collect filter S.files).filterMap
        (S.model.provider.workOf? interface)).map Provider.workName) ↔
      S.Bound filter q ∧ S.Eligible i q := by
  simp only [List.mem_map, List.mem_filterMap, mem_collect, Provider.workOf?_eq_some]
  constructor
  · rintro ⟨interface, hi, _, ⟨c, ⟨f, hf, hn, haccepts⟩, t, hdecl, hskip, himpl, hopen, rfl⟩, rfl⟩
    rw [declaration?_provider, hf, Option.bind_some] at hdecl
    obtain ⟨q, hlookup, ht⟩ := Option.bind_eq_some_iff.1 hdecl
    have hmem := List.mem_of_getElem? hf
    have hname : t.qualifiedName = q := qualifiedName_of_symbol? ht
    rw [Provider.workName, hname]
    exact ⟨⟨f, hmem, c.node, hn, haccepts, hlookup⟩,
      (eligible_iff ht (declarationsOf_ne_nil_of_lookup hmem hlookup)).2
        ⟨interface, hi, hskip, himpl, hopen⟩⟩
  · rintro ⟨⟨f, hmem, n, hn, haccepts, hlookup⟩, heligible⟩
    obtain ⟨index, hf⟩ := List.mem_iff_getElem?.1 hmem
    have hne := declarationsOf_ne_nil_of_lookup hmem hlookup
    obtain ⟨t, ht⟩ : ∃ t, S.symbol? q = some t := by
      rw [← Option.isSome_iff_exists, isSome_symbol?, known]
      simp [hne]
    obtain ⟨interface, hi, hskip, himpl, hopen⟩ := (eligible_iff ht hne).1 heligible
    refine ⟨interface, hi, _, ⟨⟨index, n⟩, ⟨f, hf, hn, haccepts⟩, t, ?_, hskip, himpl, hopen, rfl⟩,
      qualifiedName_of_symbol? ht⟩
    rw [declaration?_provider, hf, Option.bind_some, hlookup, Option.bind_some, ht]

end Sources

/-! ### The work that a provider finds -/

namespace Provider

variable {ν : Type} {P : Provider ν} {candidates : List ν} {interfaceName : String}

/-- What there is to do for some candidates, with the types and the candidates. -/
def work (P : Provider ν) (candidates : List ν) (interfaceName : String) :
    List (WorkItem × TypeSymbol × ν) :=
  (P.typeNamed? interfaceName).elim [] fun interface =>
    firstBy workName [] (candidates.filterMap (P.workOf? interface))

theorem qualifiedName_of_mem_work {w : WorkItem × TypeSymbol × ν}
    (h : w ∈ P.work candidates interfaceName) :
    w.1.qualifiedName = workName w ∧ w.1.namespaceName ≠ "" := by
  rw [work] at h
  cases hi : P.typeNamed? interfaceName with
  | none => rw [hi] at h; cases h
  | some interface =>
    rw [hi, Option.elim_some] at h
    obtain ⟨c, -, hwork⟩ := List.mem_filterMap.1 ((firstBy_sublist _ _).subset h)
    obtain ⟨t, -, hskip, -, -, rfl⟩ := workOf?_eq_some.1 hwork
    rw [workName, (Sources.qualifiedName_of_place hskip).1]
    exact ⟨rfl, (skipReason_eq_none.1 hskip).2.2⟩

theorem nodup_workNames : ((P.work candidates interfaceName).map workName).Nodup := by
  rw [work]
  cases P.typeNamed? interfaceName with
  | none => exact List.nodup_nil
  | some interface => exact nodup_map_firstBy _ _

theorem map_qualifiedName_work :
    ((P.work candidates interfaceName).map Prod.fst).map WorkItem.qualifiedName =
      (P.work candidates interfaceName).map workName := by
  rw [List.map_map]
  exact List.map_congr_left fun w hw => (qualifiedName_of_mem_work hw).1

theorem nodup_artifactKeys (suffix : String) :
    (((P.work candidates interfaceName).map Prod.fst).map (·.artifactKey suffix)).Nodup := by
  have hnames : (((P.work candidates interfaceName).map Prod.fst).map
      WorkItem.qualifiedName).Nodup := by
    rw [map_qualifiedName_work]
    exact nodup_workNames
  have hnamespace : ∀ item ∈ (P.work candidates interfaceName).map Prod.fst,
      item.namespaceName ≠ "" := by
    intro item hitem
    obtain ⟨w, hw, rfl⟩ := List.mem_map.1 hitem
    exact (qualifiedName_of_mem_work hw).2
  refine List.Nodup.map_on (fun a ha b hb hkey => ?_) (List.Nodup.of_map _ hnames)
  exact List.inj_on_of_nodup_map hnames ha hb
    ((artifactKey_eq_iff (hnamespace a ha) (hnamespace b hb)).1 hkey)

end Provider

/-! ### The work of a pass -/

/-- The files of a pass, read as its configuration says. -/
def Config.sources (config : Config) (files : List SourceFile) : Sources :=
  ⟨config.includeFramework, files⟩

namespace Pass

variable {config : Config} {files : List SourceFile}

/-- What a pass finds to do, with the types and the candidates. -/
def work (config : Config) (files : List SourceFile) : List (WorkItem × TypeSymbol × Candidate) :=
  ((config.sources files).symbol? config.disposalInterface).elim [] fun interface =>
    firstBy Provider.workName [] ((Candidate.collect config.filter files).filterMap
      ((config.sources files).model.provider.workOf? interface))

/-- What is done for a type is its work item, and the type is not passed over. -/
theorem mem_work {w : WorkItem × TypeSymbol × Candidate} (h : w ∈ work config files) :
    ∃ interface, (config.sources files).symbol? config.disposalInterface = some interface ∧
      (config.sources files).symbol? w.2.1.qualifiedName = some w.2.1 ∧
      SkipReason.of? w.2.1 = none ∧
      w.1 = (config.sources files).model.provider.workItem w.2.1 interface := by
  rw [work] at h
  cases hi : (config.sources files).symbol? config.disposalInterface with
  | none => rw [hi] at h; cases h
  | some interface =>
    rw [hi, Option.elim_some] at h
    obtain ⟨c, hc, hwork⟩ := List.mem_filterMap.1 ((firstBy_sublist _ _).subset h)
    obtain ⟨t, hdecl, hskip, -, -, rfl⟩ := Provider.workOf?_eq_some.1 hwork
    rw [Sources.declaration?_provider, Option.bind_eq_some_iff] at hdecl
    obtain ⟨f, -, hdecl⟩ := hdecl
    obtain ⟨q, -, ht⟩ := Option.bind_eq_some_iff.1 hdecl
    refine ⟨interface, rfl, ?_, hskip, rfl⟩
    rw [Sources.qualifiedName_of_symbol? ht, ht]

/-- What a pass finds is what the model of its files finds among its candidates. -/
theorem work_eq (config : Config) (files : List SourceFile) : work config files =
    (config.sources files).model.provider.work (Candidate.collect config.filter files)
      config.disposalInterface := by
  have hnamed : (config.sources files).model.provider.typeNamed? config.disposalInterface =
      (config.sources files).symbol? config.disposalInterface := Sources.get?_model _
  rw [work, Provider.work, hnamed]

theorem resolved?_ofFiles :
    (ofFiles config files).resolution.resolved? = some (work config files) := by
  have hmodel : Model.ofFiles config.includeFramework files = (config.sources files).model := rfl
  rw [ofFiles, hmodel, Provider.resolved?_resolve, work_eq]
  rfl

theorem qualifiedName_of_mem_work {w : WorkItem × TypeSymbol × Candidate}
    (h : w ∈ work config files) :
    w.1.qualifiedName = Provider.workName w ∧ w.1.namespaceName ≠ "" := by
  rw [work_eq] at h
  exact Provider.qualifiedName_of_mem_work h

theorem map_qualifiedName_work : ((work config files).map Prod.fst).map WorkItem.qualifiedName =
    (work config files).map Provider.workName := by
  rw [work_eq]
  exact Provider.map_qualifiedName_work

theorem nodup_workNames : ((work config files).map Provider.workName).Nodup := by
  rw [work_eq]
  exact Provider.nodup_workNames

/-- **The types with work** are the eligible ones with a candidate. -/
theorem mem_workNames {q : String} : q ∈ (work config files).map Provider.workName ↔
    (config.sources files).Bound config.filter q ∧
      (config.sources files).Eligible config.disposalInterface q := by
  rw [← Sources.exists_workOf?_iff, work]
  cases (config.sources files).symbol? config.disposalInterface with
  | none => simp
  | some interface =>
    simp only [Option.elim_some, mem_map_firstBy, List.not_mem_nil, not_false_eq_true, and_true,
      Option.some.injEq, exists_eq_left']
    rfl

/-- **A pass that is not cancelled has a result**: the work items, and one source for each of
them under its own key. -/
theorem result_ofFiles (config : Config) (files : List SourceFile) :
    ∃ result, (ofFiles config files).result = .ok result ∧
      result.workItems = (work config files).map Prod.fst ∧
      result.artifacts = result.workItems.map fun item =>
        (item.artifactKey config.artifactSuffix, item.render) := by
  have hkeys : (((work config files).map Prod.fst).map
      (·.artifactKey config.artifactSuffix)).Nodup := by
    rw [work_eq]
    exact Provider.nodup_artifactKeys _
  obtain ⟨result, hresult, hitems, hartifacts⟩ : ∃ result,
      (ofFiles config files).result? = some result ∧
      result.workItems = (work config files).map Prod.fst ∧
      result.artifacts = renderAll config.artifactSuffix ((work config files).map Prod.fst) := by
    rw [result?, resolved?_ofFiles]
    exact ⟨_, rfl, rfl, rfl⟩
  refine ⟨result, result_eq_ok hresult, hitems, ?_⟩
  rw [hartifacts, hitems, renderAll_eq_map hkeys]

theorem workItems_of_result {result : PassResult} (h : (ofFiles config files).result = .ok result) :
    result.workItems = (work config files).map Prod.fst := by
  obtain ⟨same, hsame, hitems, -⟩ := result_ofFiles config files
  obtain rfl : same = result := Except.ok.inj (hsame.symm.trans h)
  exact hitems

theorem artifacts_of_result {result : PassResult} (h : (ofFiles config files).result = .ok result) :
    result.artifacts = result.workItems.map fun item =>
      (item.artifactKey config.artifactSuffix, item.render) := by
  obtain ⟨same, hsame, -, hartifacts⟩ := result_ofFiles config files
  obtain rfl : same = result := Except.ok.inj (hsame.symm.trans h)
  exact hartifacts

end Pass

/-! ### Which types get code -/

/-- The type declarations of a file stand at different places. -/
def SourceFile.DistinctSpans (f : SourceFile) : Prop :=
  ((f.root.preorder.filter Node.isType).map Node.span).Nodup

namespace SourceFile

variable {f : SourceFile}

theorem node_mem_types {d : TypeDecl} (h : d ∈ f.typeDecls) :
    d.node ∈ f.root.preorder.filter Node.isType :=
  f.typeDecls_sublist.subset (List.mem_map_of_mem h)

theorem DistinctSpans.node_eq (h : f.DistinctSpans) {d : TypeDecl} (hd : d ∈ f.typeDecls)
    {n : Node} (hn : n ∈ f.root.preorder) (htype : n.isType = true) (hspan : d.span = n.span) :
    d.node = n :=
  List.inj_on_of_nodup_map h (node_mem_types hd) (List.mem_filter.2 ⟨hn, htype⟩) hspan

theorem DistinctSpans.lookup_bindingsOf (h : f.DistinctSpans) {d : TypeDecl}
    (hd : d ∈ f.typeDecls) :
    (Model.bindingsOf f.declarations).lookup d.span = some d.qualifiedName := by
  have hspans : (f.typeDecls.map TypeDecl.span).Nodup := by
    have hsublist := (f.typeDecls_sublist.map Node.span).nodup h
    rwa [List.map_map] at hsublist
  refine Assoc.lookup_of_mem ?_ (Sources.mem_bindingsOf.2 ⟨d, hd, rfl, rfl⟩)
  rw [Sources.bindingsOf_eq, List.map_reverse, List.nodup_reverse, List.map_map]
  exact hspans

end SourceFile

theorem Sources.bound_iff {S : Sources} (h : ∀ f ∈ S.files, f.DistinctSpans) {filter : Filter}
    {q : String} : S.Bound filter q ↔ ∃ entry ∈ S.declarationsOf q,
      filter.accepts entry.1.source entry.2.node = true := by
  constructor
  · rintro ⟨f, hf, n, hn, haccepts, hlookup⟩
    obtain ⟨d, hd, hspan, hq⟩ := mem_bindingsOf.1 (Assoc.mem_of_lookup hlookup)
    have hclass : n.isClass = true := (Bool.and_eq_true_iff.1 haccepts).1
    have hnode : d.node = n := (h f hf).node_eq hd hn (Node.isType_of_isClass hclass) hspan
    exact ⟨(f, d), mem_declarationsOf.2 ⟨hf, hd, hq⟩, by rw [hnode]; exact haccepts⟩
  · rintro ⟨⟨f, d⟩, hentry, haccepts⟩
    obtain ⟨hf, hd, rfl⟩ := mem_declarationsOf.1 hentry
    exact ⟨f, hf, d.node, (List.mem_filter.1 (SourceFile.node_mem_types hd)).1, haccepts,
      (h f hf).lookup_bindingsOf hd⟩

/-- The type named `q` gets code: it is eligible, and the filter accepts one of its
declarations. -/
structure Qualifies (config : Config) (files : List SourceFile) (q : String) : Prop extends
    (config.sources files).Eligible config.disposalInterface q where
  accepted : ∃ entry ∈ (config.sources files).declarationsOf q,
    config.filter.accepts entry.1.source entry.2.node = true

/-- **Exactly the types that qualify get code**, each of them once: a pass over files whose type
declarations stand at different places has a result, and its work items are for those types. -/
theorem generated_iff_qualifies (config : Config) (files : List SourceFile)
    (hspans : ∀ f ∈ files, f.DistinctSpans) :
    ∃ result, (Pass.ofFiles config files).result = .ok result ∧
      (result.workItems.map WorkItem.qualifiedName).Nodup ∧
      ∀ q, q ∈ result.workItems.map WorkItem.qualifiedName ↔ Qualifies config files q := by
  obtain ⟨result, hresult, hitems, -⟩ := Pass.result_ofFiles config files
  refine ⟨result, hresult, ?_, fun q => ?_⟩
  · rw [hitems, Pass.map_qualifiedName_work]
    exact Pass.nodup_workNames
  · rw [hitems, Pass.map_qualifiedName_work, Pass.mem_workNames, Sources.bound_iff hspans]
    exact ⟨fun h => ⟨h.2, h.1⟩, fun h => ⟨h.accepted, h.toEligible⟩⟩

/-- The file that the reader makes of a text. -/
def SourceFile.read (text : String) : SourceFile :=
  .ofBytes Reader.parse default (Text.encode text)

/-- A class in two files, of which the second names the interface and the first does not.  It has
members, and a method that is named like the generated one but is another. -/
def splitClass : List SourceFile :=
  [.read "namespace N\x7bpartial class C\x7bSystem.IO.Stream s;int Dispose()\x7b\x7d\x7d\x7d",
    .read <| "namespace N\x7bpartial class C:System.IDisposable\x7b" ++
      "void DisposeManaged()\x7b\x7d\x7d\x7d"]

theorem generated_iff_qualifies_splitClass :
    (∀ f ∈ splitClass, f.DistinctSpans) ∧ Qualifies {} splitClass "N.C" := by
  have hspans : ∀ f ∈ splitClass, f.DistinctSpans := by
    unfold SourceFile.DistinctSpans
    decide +kernel
  refine ⟨hspans, ?_⟩
  obtain ⟨result, hresult, -, hiff⟩ := generated_iff_qualifies {} splitClass hspans
  have hnames : ((Pass.ofFiles {} splitClass).result.toOption.map fun r =>
      r.workItems.map WorkItem.qualifiedName) = some ["N.C"] := by decide +kernel
  rw [hresult] at hnames
  have hitems : result.workItems.map WorkItem.qualifiedName = ["N.C"] := Option.some.inj hnames
  rw [← hiff, hitems]
  exact List.mem_singleton_self _

/-! ### What the work items say -/

namespace Sources

variable {S : Sources} {i q : String}

/-- A member to dispose: a field or property of each object whose written type stands, where it
is written, for a type that is disposable. -/
def IsDisposableMember (S : Sources) (i : String) (scope : Scope) (m : MemberDecl) : Prop :=
  (m.kind = .field ∨ m.kind = .property) ∧ m.isStatic = false ∧
    ∃ written r, m.writtenType = some written ∧ S.resolver.resolve? scope written = some r ∧
      S.Disposable i r

open Classical in
/-- The names of the members to dispose of the type named `q`, declaration by declaration and in
the order they stand. -/
noncomputable def disposableMembers (S : Sources) (i q : String) : List String :=
  (S.declarationsOf q).flatMap fun entry =>
    ((entry.2.members entry.1).filter fun m =>
      decide (S.IsDisposableMember i entry.2.scope m)).map MemberDecl.name

theorem symbol?_of_resolve? {scope : Scope} {written r : String}
    (h : S.resolver.resolve? scope written = some r) : ∃ t, S.symbol? r = some t := by
  obtain ⟨bare, -, hlookup⟩ := Option.bind_eq_some_iff.1 h
  rw [← Option.isSome_iff_exists, isSome_symbol?]
  exact List.find?_some hlookup

theorem isDisposableMember_iff {interface : TypeSymbol} (hi : S.symbol? i = some interface)
    (hkind : interface.kind = .interfaceType) {scope : Scope} {m : MemberDecl} :
    ((S.resolver.memberSymbol m scope).isInstanceData &&
      (((S.resolver.memberSymbol m scope).declaredType.bind S.model.provider.typeNamed?).any
        fun t => S.model.provider.isOrImplements t interface)) = true ↔
      S.IsDisposableMember i scope m := by
  have hdata : (S.resolver.memberSymbol m scope).isInstanceData = true ↔
      (m.kind = .field ∨ m.kind = .property) ∧ m.isStatic = false := by
    simp [MemberSymbol.isInstanceData, Model.Resolver.memberSymbol]
  have htyped : (((S.resolver.memberSymbol m scope).declaredType.bind
      S.model.provider.typeNamed?).any fun t => S.model.provider.isOrImplements t interface) =
        true ↔
      ∃ written r, m.writtenType = some written ∧ S.resolver.resolve? scope written = some r ∧
        S.Disposable i r := by
    rw [Option.any_eq_true]
    constructor
    · rintro ⟨t, ht, hdisposable⟩
      obtain ⟨r, hr, hget⟩ := Option.bind_eq_some_iff.1 ht
      obtain ⟨written, hwritten, hres⟩ := Option.bind_eq_some_iff.1 hr
      have hsymbol : S.symbol? r = some t := (get?_model r).symm.trans hget
      exact ⟨written, r, hwritten, hres, (isOrImplements_iff hsymbol hi hkind).1 hdisposable⟩
    · rintro ⟨written, r, hwritten, hres, hdisposable⟩
      obtain ⟨t, ht⟩ := symbol?_of_resolve? hres
      refine ⟨t, Option.bind_eq_some_iff.2 ⟨r, Option.bind_eq_some_iff.2 ⟨written, hwritten, hres⟩,
        (get?_model r).trans ht⟩, (isOrImplements_iff ht hi hkind).2 hdisposable⟩
  rw [Bool.and_eq_true, hdata, htyped, IsDisposableMember, and_assoc]

open Classical in
theorem disposableMemberNames_model (hq : q ≠ "") {interface : TypeSymbol}
    (hi : S.symbol? i = some interface) (hkind : interface.kind = .interfaceType) :
    S.model.provider.disposableMemberNames (S.model.membersOf q) interface =
      S.disposableMembers i q := by
  rw [Provider.disposableMemberNames, membersOf_model hq, List.filter_flatMap, List.map_flatMap,
    disposableMembers]
  refine List.flatMap_congr fun entry _ => ?_
  rw [List.filter_map, List.map_map]
  have htest : ∀ m ∈ entry.2.members entry.1, _ = decide (S.IsDisposableMember i entry.2.scope m) :=
    fun m _ => Bool.eq_iff_iff.2 ((isDisposableMember_iff hi hkind).trans decide_eq_true_iff.symm)
  rw [← List.filter_congr htest]
  rfl

end Sources

/-- What the work item of the type named `q` says. -/
structure Describes (config : Config) (files : List SourceFile) (q : String) (item : WorkItem) :
    Prop where
  /-- The names are those of the first declaration. -/
  names : ∃ f first rest, (config.sources files).declarationsOf q = (f, first) :: rest ∧
    item.namespaceName = first.namespaceName ∧ item.className = first.name
  /-- The accessibility is the first one that is written explicitly. -/
  accessibility : item.accessibility = .firstExplicit
    (((config.sources files).declarationsOf q).map fun entry => entry.2.accessibility)
  /-- The members are those to dispose, of all declarations. -/
  memberNames : item.memberNames =
    (config.sources files).disposableMembers config.disposalInterface q
  /-- The hooks are methods that some declaration has. -/
  managedHook : item.managedHook = true ↔ (config.sources files).HasMethod q "DisposeManaged"
  unmanagedHook : item.unmanagedHook = true ↔ (config.sources files).HasMethod q "DisposeUnmanaged"

theorem Sources.Eligible.describes {config : Config} {files : List SourceFile} {q : String}
    {t interface : TypeSymbol}
    (h : (config.sources files).Eligible config.disposalInterface q) (hq : q ≠ "")
    (ht : (config.sources files).symbol? q = some t)
    (hi : (config.sources files).symbol? config.disposalInterface = some interface) :
    Describes config files q ((config.sources files).model.provider.workItem t interface) := by
  obtain ⟨f, first, rest, hds, -⟩ := h.place
  obtain rfl : (config.sources files).symbolOf first (((f, first) :: rest).map Prod.snd) = t := by
    rw [symbol?, hds] at ht
    exact Option.some.inj ht
  have hkind : interface.kind = .interfaceType := by
    obtain ⟨u, hu, hkind⟩ := kindOf?_eq_some.1 h.interface
    obtain rfl : u = interface := Option.some.inj (hu.symm.trans hi)
    exact hkind
  have hmembers := members_provider ht
  refine ⟨⟨f, first, rest, hds, rfl, rfl⟩, ?_, ?_, ?_, ?_⟩
  · rw [hds]
    simp [Provider.workItem, symbolOf, Function.comp_def]
  · rw [Provider.workItem, hmembers]
    exact disposableMemberNames_model hq hi hkind
  · rw [Provider.workItem, hmembers]
    exact hasCleanupHook_model hq
  · rw [Provider.workItem, hmembers]
    exact hasCleanupHook_model hq

/-- **Every work item describes its type**: a pass has a result, and each of its work items says
what the declarations of its type say together. -/
theorem workItems_describe (config : Config) (files : List SourceFile) :
    ∃ result, (Pass.ofFiles config files).result = .ok result ∧
      ∀ item ∈ result.workItems, Describes config files item.qualifiedName item := by
  obtain ⟨result, hresult, hitems, -⟩ := Pass.result_ofFiles config files
  refine ⟨result, hresult, fun item hitem => ?_⟩
  rw [hitems] at hitem
  obtain ⟨w, hw, rfl⟩ := List.mem_map.1 hitem
  obtain ⟨interface, hi, ht, hskip, hitem⟩ := Pass.mem_work hw
  have heligible := (Pass.mem_workNames.1 (List.mem_map_of_mem hw)).2
  rw [(Pass.qualifiedName_of_mem_work hw).1, hitem]
  exact heligible.describes (Sources.qualifiedName_of_place hskip).2 ht hi

end Disposal
