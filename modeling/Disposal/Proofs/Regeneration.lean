import Disposal.Proofs.Readback

/-!
# Regeneration

Generated sources are analysed together with the files that they were generated for.  They add
declarations to types that are declared already, so that no name changes its meaning and no type
gets further bases; and the types they belong to declare `Dispose()` now.

* `Sources.Inserted` says that fragments were put between the files of some sources;
* `Sources.Inserted.resolver_eq` and `Sources.Inserted.base`: names and bases stay what they were;
* `regeneration_fixpoint`: a pass over files with their generated sources finds nothing to do.
-/

namespace Disposal

open Declaration Relation

theorem Fragment.name_unique {f : SourceFile} {q r : String} (hq : Fragment f q)
    (hr : Fragment f r) : q = r := by
  obtain ⟨d, htypes, rfl, -⟩ := hq.declares
  obtain ⟨d', htypes', rfl, -⟩ := hr.declares
  rw [htypes, List.singleton_inj] at htypes'
  rw [htypes']

namespace Sources

/-- `T` is `S` with fragments of its types put anywhere between its files. -/
structure Inserted (S T : Sources) (added : List SourceFile) : Prop where
  framework : T.includeFramework = S.includeFramework
  kept : S.files.Sublist T.files
  perm : T.files.Perm (S.files ++ added)
  fragments : ∀ f ∈ added, ∃ q, Fragment f q ∧ S.declarationsOf q ≠ []

namespace Inserted

variable {S T : Sources} {added : List SourceFile} {i q : String}

theorem mem_files (h : Inserted S T added) {f : SourceFile} :
    f ∈ T.files ↔ f ∈ S.files ∨ f ∈ added := by
  rw [h.perm.mem_iff, List.mem_append]

theorem flatMap_files (h : Inserted S T added) {α : Type} {g : SourceFile → List α}
    (hg : ∀ f ∈ added, g f = []) : T.files.flatMap g = S.files.flatMap g := by
  have hsublist : (S.files.flatMap g).Sublist (T.files.flatMap g) := h.kept.flatMap g
  have hlength : (S.files.flatMap g).length = (T.files.flatMap g).length := by
    rw [(h.perm.flatMap_right g).length_eq, List.flatMap_append, List.flatMap_eq_nil_iff.2 hg,
      List.append_nil]
  exact (hsublist.eq_of_length hlength).symm

/-! ### Declarations -/

theorem declarationsOf_eq (h : Inserted S T added) (hq : ∀ f ∈ added, ¬ Fragment f q) :
    T.declarationsOf q = S.declarationsOf q := by
  refine h.flatMap_files fun f hf => ?_
  obtain ⟨r, hfragment, -⟩ := h.fragments f hf
  obtain ⟨d, htypes, hname, -⟩ := hfragment.declares
  have hne : d.qualifiedName ≠ q := by
    rintro rfl
    exact hq f hf (hname ▸ hfragment)
  have hnone : typesOf q f.declarations = [] := by
    rw [typesOf, show typesIn f.declarations = [d] from htypes, List.filter_singleton]
    simp [hne]
  rw [hnone, List.map_nil]

/-- A declaration was there before, or is in a fragment of a type that was declared. -/
theorem mem_declarationsOf_cases (h : Inserted S T added) {f : SourceFile} {d : TypeDecl}
    (hd : (f, d) ∈ T.declarationsOf q) :
    (f, d) ∈ S.declarationsOf q ∨ d.bases = [] ∧ S.declarationsOf q ≠ [] := by
  obtain ⟨hf, hmem, rfl⟩ := mem_declarationsOf.1 hd
  rcases h.mem_files.1 hf with hf | hf
  · exact .inl (mem_declarationsOf.2 ⟨hf, hmem, rfl⟩)
  · obtain ⟨q, hfragment, hdeclared⟩ := h.fragments f hf
    obtain ⟨only, htypes, rfl, hbases, -⟩ := hfragment.declares
    obtain rfl : d = only := List.mem_singleton.1 (htypes ▸ hmem)
    exact .inr ⟨hbases, hdeclared⟩

theorem declarationsOf_eq_nil (h : Inserted S T added) :
    T.declarationsOf q = [] ↔ S.declarationsOf q = [] := by
  constructor
  · intro hnone
    have hsublist : (S.declarationsOf q).Sublist (T.declarationsOf q) := h.kept.flatMap _
    exact List.sublist_nil.1 (hnone ▸ hsublist)
  · intro hnone
    rw [List.eq_nil_iff_forall_not_mem]
    rintro ⟨f, d⟩ hd
    rcases h.mem_declarationsOf_cases hd with hold | ⟨-, hdeclared⟩
    · rw [hnone] at hold
      cases hold
    · exact hdeclared hnone

/-! ### Names and bases -/

theorem frameworkType?_eq (h : Inserted S T added) : T.frameworkType? q = S.frameworkType? q := by
  rw [frameworkType?, frameworkType?, h.framework]

theorem known_eq (h : Inserted S T added) : T.known = S.known := by
  funext q
  have hempty : (T.declarationsOf q).isEmpty = (S.declarationsOf q).isEmpty := by
    rw [Bool.eq_iff_iff, List.isEmpty_iff, List.isEmpty_iff, h.declarationsOf_eq_nil]
  rw [known, known, hempty, h.frameworkType?_eq]

theorem globalUsings_eq (h : Inserted S T added) :
    Model.globalUsings T.declarations = Model.globalUsings S.declarations := by
  rw [globalUsings_declarations, globalUsings_declarations]
  refine h.flatMap_files fun f hf => ?_
  obtain ⟨q, hfragment, -⟩ := h.fragments f hf
  exact hfragment.usings

/-- **Every written name stands for what it stood for.** -/
theorem resolver_eq (h : Inserted S T added) : T.resolver = S.resolver := by
  rw [resolver, resolver, h.known_eq, h.globalUsings_eq]

/-- **No type has further bases.** -/
theorem base (h : Inserted S T added) {a b : String} (hbase : T.Base a b) : S.Base a b := by
  cases hbase with
  | declared decl entry resolved named =>
    rw [h.resolver_eq] at resolved
    rcases h.mem_declarationsOf_cases decl with hold | ⟨hbases, -⟩
    · exact .declared hold entry resolved named
    · rw [hbases] at entry
      cases entry
  | framework undeclared type entry =>
    exact .framework (h.declarationsOf_eq_nil.1 undeclared) (h.frameworkType?_eq ▸ type) entry

/-! ### Work -/

theorem bound (h : Inserted S T added) {filter : Filter} (hbound : T.Bound filter q) :
    S.Bound filter q := by
  obtain ⟨f, hf, n, hn, haccepts, hlookup⟩ := hbound
  rcases h.mem_files.1 hf with hf | hf
  · exact ⟨f, hf, n, hn, haccepts, hlookup⟩
  · obtain ⟨r, hfragment, -⟩ := h.fragments f hf
    rw [hfragment.rejected n hn filter] at haccepts
    cases haccepts

/-- A type with a fragment has the method `void Dispose()`. -/
theorem hasMethod (h : Inserted S T added) {f : SourceFile} (hf : f ∈ added)
    (hfragment : Fragment f q) : T.HasMethod q disposeMethod := by
  obtain ⟨d, htypes, hname, -, hvoid⟩ := hfragment.declares
  have hmem : d ∈ f.typeDecls := htypes ▸ List.mem_singleton_self d
  exact ⟨(f, d), mem_declarationsOf.2 ⟨h.mem_files.2 (.inr hf), hmem, hname⟩, hvoid⟩

/-- **No type starts to be eligible**, if the disposal interface has no fragment. -/
theorem eligible (h : Inserted S T added) (hi : ∀ f ∈ added, ¬ Fragment f i)
    (heligible : T.Eligible i q) : S.Eligible i q := by
  obtain ⟨hinterface, hplace, hbased, hopen⟩ := heligible
  -- a type with a fragment would have the method
  have hq : ∀ f ∈ added, ¬ Fragment f q := fun f hf hfragment =>
    hopen (h.hasMethod hf hfragment)
  rw [kindOf?, h.declarationsOf_eq hi, h.frameworkType?_eq] at hinterface
  rw [h.declarationsOf_eq hq] at hplace
  rw [HasMethod, h.declarationsOf_eq hq] at hopen
  exact ⟨hinterface, hplace, TransGen.mono (fun _ _ => h.base) _ _ hbased, hopen⟩

end Inserted

end Sources

/-! ### The generated files of a pass -/

/-- The files of the generated sources, each parsed and put at its place. -/
def PassResult.generatedFiles (result : PassResult) (parse : Parser) (place : String → Path) :
    List SourceFile :=
  result.artifacts.map fun a => .ofBytes parse (place a.1) (Text.encode a.2)

namespace Pass

variable {config : Config} {files : List SourceFile} {result : PassResult} {parse : Parser}
  {place : String → Path}

theorem model_ofFiles : (ofFiles config files).model = (config.sources files).model := rfl

theorem mem_workItems_names (h : (ofFiles config files).result = .ok result) {q : String} :
    q ∈ result.workItems.map WorkItem.qualifiedName ↔
      (config.sources files).Bound config.filter q ∧
        (config.sources files).Eligible config.disposalInterface q := by
  rw [workItems_of_result h, map_qualifiedName_work, mem_workNames]

theorem eligible_of_mem (h : (ofFiles config files).result = .ok result) {item : WorkItem}
    (hitem : item ∈ result.workItems) :
    (config.sources files).Eligible config.disposalInterface item.qualifiedName :=
  ((mem_workItems_names h).1 (List.mem_map_of_mem hitem)).2

theorem namespaceName_ne_empty (h : (ofFiles config files).result = .ok result) {item : WorkItem}
    (hitem : item ∈ result.workItems) : item.namespaceName ≠ "" := by
  rw [workItems_of_result h] at hitem
  obtain ⟨w, hw, rfl⟩ := List.mem_map.1 hitem
  exact (qualifiedName_of_mem_work hw).2

theorem mem_generatedFiles (h : (ofFiles config files).result = .ok result) {f : SourceFile} :
    f ∈ result.generatedFiles parse place ↔ ∃ item ∈ result.workItems,
      .ofBytes parse (place (item.artifactKey config.artifactSuffix)) (Text.encode item.render) =
        f := by
  simp only [PassResult.generatedFiles, artifacts_of_result h, List.map_map, List.mem_map,
    Function.comp_apply]

theorem fragment_of_mem (h : (ofFiles config files).result = .ok result)
    (hparse : ∀ item ∈ result.workItems, parse.ReadsBack item) {f : SourceFile}
    (hf : f ∈ result.generatedFiles parse place) :
    ∃ item ∈ result.workItems, Fragment f item.qualifiedName := by
  obtain ⟨item, hitem, rfl⟩ := (mem_generatedFiles h).1 hf
  exact ⟨item, hitem,
    WorkItem.fragment_ofBytes (hparse item hitem) (namespaceName_ne_empty h hitem) _⟩

theorem exists_fragment (h : (ofFiles config files).result = .ok result)
    (hparse : ∀ item ∈ result.workItems, parse.ReadsBack item) {item : WorkItem}
    (hitem : item ∈ result.workItems) :
    ∃ f ∈ result.generatedFiles parse place, Fragment f item.qualifiedName :=
  ⟨_, (mem_generatedFiles h).2 ⟨item, hitem, rfl⟩,
    WorkItem.fragment_ofBytes (hparse item hitem) (namespaceName_ne_empty h hitem) _⟩

/-- The files with the generated ones between them. -/
theorem inserted (h : (ofFiles config files).result = .ok result)
    (hparse : ∀ item ∈ result.workItems, parse.ReadsBack item) {all : List SourceFile}
    (hkept : files.Sublist all) (hperm : all.Perm (files ++ result.generatedFiles parse place)) :
    (config.sources files).Inserted (config.sources all) (result.generatedFiles parse place) := by
  refine ⟨rfl, hkept, hperm, fun f hf => ?_⟩
  obtain ⟨item, hitem, hfragment⟩ := fragment_of_mem h hparse hf
  obtain ⟨g, first, rest, hds, -⟩ := (eligible_of_mem h hitem).place
  exact ⟨_, hfragment, by rw [hds]; exact List.cons_ne_nil _ _⟩

end Pass

/-- **Regeneration is a fixpoint.**  A pass has a result, and if the parser reads the generated
sources back, a pass over the same files with the generated ones anywhere between them has a
result too, which is empty: all types that got code have a method `void Dispose()` now, and no
other type gets any. -/
theorem regeneration_fixpoint (config : Config) (files : List SourceFile) (parse : Parser)
    (place : String → Path) :
    ∃ result, (Pass.ofFiles config files).result = .ok result ∧
      ((∀ item ∈ result.workItems, parse.ReadsBack item) →
        ∀ all, files.Sublist all → all.Perm (files ++ result.generatedFiles parse place) →
          ∃ again, (Pass.ofFiles config all).result = .ok again ∧
            again.workItems = [] ∧ again.artifacts = [] ∧
            ∀ item ∈ result.workItems, hasDisposeMethod
              ((Pass.ofFiles config all).model.membersOf item.qualifiedName) = true) := by
  obtain ⟨result, hresult, -⟩ := Pass.result_ofFiles config files
  refine ⟨result, hresult, fun hparse all hkept hperm => ?_⟩
  obtain ⟨again, hagain, -, hartifacts⟩ := Pass.result_ofFiles config all
  have hinserted := Pass.inserted hresult hparse hkept hperm
  have hmethod : ∀ item ∈ result.workItems,
      (config.sources all).HasMethod item.qualifiedName disposeMethod := by
    intro item hitem
    obtain ⟨f, hf, hfragment⟩ := Pass.exists_fragment hresult hparse hitem
    exact hinserted.hasMethod hf hfragment
  -- the disposal interface is no class, so it has no fragment
  have hinterface : ∀ f ∈ result.generatedFiles parse place,
      ¬ Fragment f config.disposalInterface := by
    intro f hf hinterface
    obtain ⟨item, hitem, hfragment⟩ := Pass.fragment_of_mem hresult hparse hf
    exact (Pass.eligible_of_mem hresult hitem).ne (hinterface.name_unique hfragment)
  have hnone : again.workItems = [] := by
    rw [← List.map_eq_nil_iff (f := WorkItem.qualifiedName), List.eq_nil_iff_forall_not_mem]
    intro q hq
    obtain ⟨hbound, heligible⟩ := (Pass.mem_workItems_names hagain).1 hq
    -- what has work now had work before, and what had work has the method now
    have hbefore : q ∈ result.workItems.map WorkItem.qualifiedName :=
      (Pass.mem_workItems_names hresult).2
        ⟨hinserted.bound hbound, hinserted.eligible hinterface heligible⟩
    obtain ⟨item, hitem, rfl⟩ := List.mem_map.1 hbefore
    exact heligible.undisposed (hmethod item hitem)
  refine ⟨again, hagain, hnone, by rw [hartifacts, hnone, List.map_nil], fun item hitem => ?_⟩
  have hname : item.qualifiedName ≠ "" := by
    rw [WorkItem.qualifiedName, if_neg (Pass.namespaceName_ne_empty hresult hitem)]
    exact Sources.ne_empty_of_dot _ _
  rw [Pass.model_ofFiles, hasDisposeMethod, Sources.hasCleanupHook_model hname]
  exact hmethod item hitem

/-- A file with one class that has no members. -/
def loneClass : List SourceFile :=
  [.read "namespace N\x7bclass C:System.IDisposable\x7b\x7d\x7d"]

/-- The work item of that class. -/
def loneItem : WorkItem := { namespaceName := "N", className := "C" }

/-- The generated source may come first, so that its declaration is the first one of the class. -/
theorem regeneration_fixpoint_loneClass :
    (Pass.ofFiles {} loneClass).result.toOption.map PassResult.workItems = some [loneItem] ∧
      Parser.ReadsBack Reader.parse loneItem ∧
      ∃ again, (Pass.ofFiles {} (.read loneItem.render :: loneClass)).result = .ok again ∧
        again.workItems = [] := by
  have hparse : Parser.ReadsBack Reader.parse loneItem := by
    unfold Parser.ReadsBack
    decide +kernel
  have hpass : ((Pass.ofFiles {} loneClass).result.toOption.map fun r =>
      (r.workItems, r.artifacts)) =
        some ([loneItem], [("N.C.Dispose.g.cs", loneItem.render)]) := by
    decide +kernel
  obtain ⟨result, hresult, h⟩ :=
    regeneration_fixpoint {} loneClass Reader.parse fun _ => default
  rw [hresult] at hpass
  obtain ⟨hitems, hartifacts⟩ := Prod.mk.inj (Option.some.inj hpass)
  refine ⟨by rw [hresult]; exact congrArg some hitems, hparse, ?_⟩
  have hreads : ∀ item ∈ result.workItems, Parser.ReadsBack Reader.parse item := by
    rw [hitems]
    intro item hitem
    rw [List.mem_singleton.1 hitem]
    exact hparse
  have hgenerated : result.generatedFiles Reader.parse (fun _ => default) =
      [.read loneItem.render] := by
    rw [PassResult.generatedFiles, hartifacts]
    rfl
  obtain ⟨again, hagain, hnone, -⟩ := h hreads (.read loneItem.render :: loneClass)
    (List.sublist_cons_self _ _)
    (by rw [hgenerated]; exact (List.perm_append_singleton _ _).symm)
  exact ⟨again, hagain, hnone⟩

end Disposal
