import Disposal.Proofs.Agreement
import Mathlib.Data.List.Find

/-!
# Adding a file

A further file makes further names known, and every name that is written anywhere is looked up
among all known names.  A file is unrelated to some files if it has no global usings, declares no
name that is known already, and none that is tried for a type written in the files.  Then nothing
changes for their types.

* `Sources.lookups` are the names that are tried for a written type, `Unrelated` is the condition;
* `Unrelated.resolve?_eq`: every type that is written in the files stands for what it stood for;
* `Unrelated.agree`: with and without the file, the sources agree on all names that it does not
  declare;
* `Unrelated.names_eq`: further names with work come behind the others, and the file declares them.
-/

namespace Disposal

open Declaration

/-! ### Names that are tried -/

/-- The types written in a declaration: the entries of its base list and the types of its fields and
properties. -/
def TypeDecl.written (f : SourceFile) (d : TypeDecl) : List String :=
  d.bases ++ (d.members f).filterMap MemberDecl.writtenType

namespace Sources

variable {S : Sources} {q : String}

/-- The names that are tried for a type written in a scope. -/
def lookups (S : Sources) (scope : Scope) (written : String) : List String :=
  (TypeName.normalize? written).elim [] (scope.candidates S.resolver.globalUsings)

theorem mem_lookups_of_resolve? {scope : Scope} {written r : String}
    (h : S.resolver.resolve? scope written = some r) : r ∈ S.lookups scope written := by
  obtain ⟨bare, hbare, hfound⟩ := Option.bind_eq_some_iff.1 h
  rw [lookups, hbare]
  exact List.mem_of_find?_eq_some hfound

theorem mem_lookups_of_normalize? {scope : Scope} {written bare : String}
    (h : TypeName.normalize? written = some bare) : bare ∈ S.lookups scope written := by
  rw [lookups, h]
  exact scope.mem_candidates_self _ bare

theorem mem_lookups_of_baseName? {scope : Scope} {written b : String}
    (h : S.resolver.baseName? scope written = some b) : b ∈ S.lookups scope written := by
  unfold Model.Resolver.baseName? at h
  split at h
  · rename_i name hres
    split_ifs at h
    · exact mem_lookups_of_normalize? h
    · exact Option.some.inj h ▸ mem_lookups_of_resolve? hres
  · exact mem_lookups_of_normalize? h

theorem known_of_frameworkBase {t : TypeSymbol} (ht : S.frameworkType? q = some t) {b : String}
    (hb : b ∈ t.baseNames) : S.known b = true := by
  have hclosed : ∀ t ∈ Framework.types, ∀ b ∈ t.baseNames,
      ∃ u ∈ Framework.types, u.qualifiedName = b := by decide +kernel
  have hframework : S.includeFramework = true := by
    rw [frameworkType?] at ht
    split_ifs at ht with hif
    exact hif
  rw [frameworkType?, if_pos hframework] at ht
  obtain ⟨u, hu, hname⟩ := hclosed t (List.mem_of_find?_eq_some ht) b hb
  have hsome : (S.frameworkType? b).isSome = true := by
    rw [frameworkType?, if_pos hframework, List.find?_isSome]
    exact ⟨u, hu, decide_eq_true hname⟩
  rw [known, hsome, Bool.or_true]

/-- What the symbol of a name leads to: its base names were tried for a base entry in some
declaration, or belong to a framework type. -/
theorem baseNames_cases {t : TypeSymbol} (ht : S.symbol? q = some t) {b : String}
    (hb : b ∈ t.baseNames) :
    (∃ entry ∈ S.declarationsOf q, ∃ written ∈ entry.2.bases,
      b ∈ S.lookups entry.2.scope written) ∨ S.known b = true := by
  rw [symbol?] at ht
  cases hds : S.declarationsOf q with
  | nil =>
    rw [hds] at ht
    exact .inr (known_of_frameworkBase ht hb)
  | cons entry rest =>
    rw [hds] at ht
    obtain rfl := Option.some.inj ht
    rw [symbolOf, mem_firstOccurrences, List.mem_filter, List.mem_flatMap] at hb
    obtain ⟨⟨d, hd, hwritten⟩, -⟩ := hb
    obtain ⟨entry', hentry, rfl⟩ := List.mem_map.1 hd
    obtain ⟨written, hmem, hname⟩ := List.mem_filterMap.1 hwritten
    exact .inl ⟨entry', hentry, written, hmem, mem_lookups_of_baseName? hname⟩

/-- The files with one more behind them. -/
def add (S : Sources) (e : SourceFile) : Sources := { S with files := S.files ++ [e] }

end Sources

/-! ### Unrelated files -/

/-- A file is unrelated to some files: it has no global usings, declares no known name, and none
that is tried for a type written in the files. -/
structure Unrelated (S : Sources) (e : SourceFile) : Prop where
  globalUsings : Model.globalUsings e.declarations = []
  fresh : ∀ d ∈ e.typeDecls, S.model.types.get? d.qualifiedName = none
  untried : ∀ f ∈ S.files, ∀ d ∈ f.typeDecls, ∀ written ∈ d.written f, ∀ x ∈ e.typeDecls,
    x.qualifiedName ∉ S.lookups d.scope written

namespace Unrelated

open Sources

variable {S : Sources} {e f : SourceFile} {d : TypeDecl} {q : String}

theorem not_declaresType_of_known (h : Unrelated S e) (hq : S.known q = true) :
    ¬ e.DeclaresType q := by
  rintro ⟨d, hd, rfl⟩
  have hnone := h.fresh d hd
  rw [get?_model] at hnone
  rw [← isSome_symbol?, hnone] at hq
  cases hq

theorem not_declaresType (h : Unrelated S e) (hf : f ∈ S.files) (hq : f.DeclaresType q) :
    ¬ e.DeclaresType q := by
  obtain ⟨d, hd, hname⟩ := hq
  have hne : S.declarationsOf q ≠ [] := List.ne_nil_of_mem (mem_declarationsOf.2 ⟨hf, hd, hname⟩)
  exact h.not_declaresType_of_known (by simp [known, hne])

theorem not_declaresType_of_tried (h : Unrelated S e) (hf : f ∈ S.files) (hd : d ∈ f.typeDecls)
    {written : String} (hwritten : written ∈ d.written f)
    (hq : q ∈ S.lookups d.scope written) : ¬ e.DeclaresType q := by
  rintro ⟨x, hx, rfl⟩
  exact h.untried f hf d hd written hwritten x hx hq

theorem declarationsOf_eq (hq : ¬ e.DeclaresType q) :
    (S.add e).declarationsOf q = S.declarationsOf q := by
  have hnone : typesOf q e.declarations = [] := not_not.1 (SourceFile.declaresType_iff.not.1 hq)
  simp [declarationsOf, add, hnone]

theorem known_eq (hq : ¬ e.DeclaresType q) : (S.add e).known q = S.known q := by
  rw [known, known, declarationsOf_eq hq]
  rfl

theorem globalUsings_eq (h : Unrelated S e) :
    (S.add e).resolver.globalUsings = S.resolver.globalUsings := by
  rw [resolver, resolver, globalUsings_declarations, globalUsings_declarations]
  simp [add, h.globalUsings]

/-- **Every type that is written in the files stands for what it stood for.** -/
theorem resolve?_eq (h : Unrelated S e) (hf : f ∈ S.files) (hd : d ∈ f.typeDecls)
    {written : String} (hwritten : written ∈ d.written f) :
    (S.add e).resolver.resolve? d.scope written = S.resolver.resolve? d.scope written := by
  rw [Model.Resolver.resolve?, Model.Resolver.resolve?]
  refine Option.bind_congr fun bare hbare => ?_
  rw [Scope.lookup?, Scope.lookup?, h.globalUsings_eq]
  -- the same names are tried in the same order, and none of them has become known
  refine List.find?_congr fun x hx => known_eq ?_
  refine h.not_declaresType_of_tried hf hd hwritten ?_
  rw [lookups, hbare]
  exact hx

theorem baseName?_eq (h : Unrelated S e) (hf : f ∈ S.files) (hd : d ∈ f.typeDecls)
    {written : String} (hwritten : written ∈ d.bases) :
    (S.add e).resolver.baseName? d.scope written = S.resolver.baseName? d.scope written := by
  unfold Model.Resolver.baseName?
  rw [h.resolve?_eq hf hd (List.mem_append_left _ hwritten)]

/-- **The symbols of all other names stay what they were.** -/
theorem symbol?_eq (h : Unrelated S e) (hq : ¬ e.DeclaresType q) :
    (S.add e).symbol? q = S.symbol? q := by
  rw [symbol?, symbol?, declarationsOf_eq hq]
  cases hds : S.declarationsOf q with
  | nil => rfl
  | cons entry rest =>
    have hbases : ∀ d ∈ (entry :: rest).map Prod.snd,
        (d.bases.filterMap fun written => (S.add e).resolver.baseName? d.scope written) =
          d.bases.filterMap fun written => S.resolver.baseName? d.scope written := by
      intro d hd
      obtain ⟨⟨f, d⟩, hentry, rfl⟩ := List.mem_map.1 hd
      obtain ⟨hf, hd, -⟩ := mem_declarationsOf.1 (hds ▸ hentry)
      exact List.filterMap_congr fun written hwritten => h.baseName?_eq hf hd hwritten
    simp only [symbolOf, List.flatMap_congr hbases]

/-- **The members of all other types stay what they were.** -/
theorem membersOf_eq (h : Unrelated S e) (hq : ¬ e.DeclaresType q) (hne : q ≠ "") :
    (S.add e).model.membersOf q = S.model.membersOf q := by
  rw [membersOf_model hne, membersOf_model hne, declarationsOf_eq hq]
  refine List.flatMap_congr fun entry hentry => List.map_congr_left fun m hm => ?_
  obtain ⟨hf, hd, -⟩ := mem_declarationsOf.1 hentry
  have htype : (m.writtenType.bind fun written =>
      (S.add e).resolver.resolve? entry.2.scope written) =
        m.writtenType.bind fun written => S.resolver.resolve? entry.2.scope written := by
    refine Option.bind_congr fun written hwritten => h.resolve?_eq hf hd ?_
    exact List.mem_append_right _ (List.mem_filterMap.2 ⟨m, hm, hwritten⟩)
  rw [Model.Resolver.memberSymbol, Model.Resolver.memberSymbol, htype]

/-- **With and without the file, the sources agree** on the names that it does not declare. -/
theorem agree (h : Unrelated S e) : Agree (fun q => ¬ e.DeclaresType q) S (S.add e) where
  symbol q hq := by rw [h.symbol?_eq hq]
  members q hq hne := by rw [h.membersOf_eq hq hne]
  bases q t _ ht b hb := by
    rcases baseNames_cases ht hb with ⟨entry, hentry, written, hwritten, htried⟩ | hknown
    · obtain ⟨hf, hd, -⟩ := mem_declarationsOf.1 hentry
      exact h.not_declaresType_of_tried hf hd (List.mem_append_left _ hwritten) htried
    · exact h.not_declaresType_of_known hknown
  types q _ hne m hm r hr := by
    rw [membersOf_model hne] at hm
    obtain ⟨entry, hentry, hm⟩ := List.mem_flatMap.1 hm
    obtain ⟨decl, hdecl, rfl⟩ := List.mem_map.1 hm
    obtain ⟨hf, hd, -⟩ := mem_declarationsOf.1 hentry
    obtain ⟨written, hwritten, hres⟩ := Option.bind_eq_some_iff.1 hr
    refine h.not_declaresType_of_tried hf hd ?_ (mem_lookups_of_resolve? hres)
    exact List.mem_append_right _ (List.mem_filterMap.2 ⟨decl, hdecl, hwritten⟩)

theorem findingsOf_eq (h : Unrelated S e) (hq : ¬ e.DeclaresType q) (checks : List Diagnostic)
    (i : String) : (S.add e).findingsOf checks i q = S.findingsOf checks i q := by
  have hsame : S.itemOf? i q = (S.add e).itemOf? i q := h.agree.itemOf?_eq hq
  cases hitem : S.itemOf? i q with
  | none => rw [findingsOf_of_none hitem, findingsOf_of_none (hsame.symm.trans hitem)]
  | some item =>
    obtain ⟨interface, t, -, ht, hskip, -⟩ := itemOf?_eq_some.1 hitem
    have hne : q ≠ "" := qualifiedName_of_symbol? ht ▸ (qualifiedName_of_place hskip).2
    rw [findingsOf_of_item ht hitem,
      findingsOf_of_item ((h.symbol?_eq hq).trans ht) (hsame.symm.trans hitem),
      h.membersOf_eq hq hne]

/-! ### The work of a pass -/

variable {config : Config} {files : List SourceFile}

theorem sources_append (config : Config) (files : List SourceFile) (e : SourceFile) :
    config.sources (files ++ [e]) = (config.sources files).add e := rfl

/-- **The names with work** are those of before, and then names that the file declares. -/
theorem names_eq (h : Unrelated (config.sources files) e) :
    ∃ more, Pass.names config (files ++ [e]) = Pass.names config files ++ more ∧
      ∀ q ∈ more, e.DeclaresType q := by
  have hold : ∀ q ∈ files.flatMap (SourceFile.boundNames config.filter),
      (((config.sources files).add e).itemOf? config.disposalInterface q).isSome =
        ((config.sources files).itemOf? config.disposalInterface q).isSome := by
    intro q hq
    obtain ⟨f, hf, hbound⟩ := List.mem_flatMap.1 hq
    have hown := h.not_declaresType hf (SourceFile.declaresType_of_mem_boundNames hbound)
    rw [h.agree.itemOf?_eq hown]
  rw [Pass.names, Pass.names, sources_append, List.flatMap_append, List.filter_append,
    List.filter_congr hold, firstOccurrences_append]
  refine ⟨_, rfl, fun q hq => ?_⟩
  have hmem := (List.mem_filter.1 (mem_firstOccurrences.1 (List.mem_filter.1 hq).1)).1
  rw [List.flatMap_singleton] at hmem
  exact SourceFile.declaresType_of_mem_boundNames hmem

theorem not_declaresType_of_mem_names (h : Unrelated (config.sources files) e)
    (hq : q ∈ Pass.names config files) : ¬ e.DeclaresType q := by
  obtain ⟨f, hf, hdeclared⟩ := Pass.declaresType_of_mem_names hq
  exact h.not_declaresType hf hdeclared

variable {r r' : PassResult}

/-- **Further work items** come behind the others and are for types that the file declares. -/
theorem workItems_eq (h : Unrelated (config.sources files) e) (hr : Pass.Yields config files r)
    (hr' : Pass.Yields config (files ++ [e]) r') :
    ∃ more, r'.workItems = r.workItems ++ more ∧
      ∀ item ∈ more, e.DeclaresType item.qualifiedName ∧ item.namespaceName ≠ "" := by
  obtain ⟨further, hnames, hfurther⟩ := h.names_eq
  have hold : (Pass.names config files).filterMap
      (((config.sources files).add e).itemOf? config.disposalInterface) = r.workItems := by
    rw [hr.workItems]
    exact List.filterMap_congr fun q hq =>
      (h.agree.itemOf?_eq (h.not_declaresType_of_mem_names hq)).symm
  rw [hr'.workItems, sources_append, hnames, List.filterMap_append, hold]
  refine ⟨_, rfl, fun item hitem => ?_⟩
  obtain ⟨q, hq, hitem⟩ := List.mem_filterMap.1 hitem
  obtain ⟨hname, hnamespace⟩ := qualifiedName_of_itemOf? hitem
  exact ⟨hname ▸ hfurther q hq, hnamespace⟩

theorem findings_prefix (h : Unrelated (config.sources files) e) (hr : Pass.Yields config files r)
    (hr' : Pass.Yields config (files ++ [e]) r') : r.findings <+: r'.findings := by
  obtain ⟨further, hnames, -⟩ := h.names_eq
  have hold : (Pass.names config files).flatMap (((config.sources files).add e).findingsOf
      config.enabledDiagnostics config.disposalInterface) = r.findings := by
    rw [hr.findings]
    exact List.flatMap_congr fun q hq =>
      h.findingsOf_eq (h.not_declaresType_of_mem_names hq) _ _
  rw [hr'.findings, sources_append, hnames, List.flatMap_append, hold]
  exact List.prefix_append _ _

end Unrelated

/-- **An unrelated file leaves the output alone.**  Both passes have results.  With the file,
further work items come behind those of before, all for types that the file declares; so do the
sources and the findings, and what is stored under the name of a type of the other files stays the
same. -/
theorem unrelated_file_keeps_output (config : Config) (files : List SourceFile) (e : SourceFile)
    (h : Unrelated (config.sources files) e) :
    ∃ r r' more, (Pass.ofFiles config files).result = .ok r ∧
      (Pass.ofFiles config (files ++ [e])).result = .ok r' ∧
      r'.workItems = r.workItems ++ more ∧
      (∀ item ∈ more, e.DeclaresType item.qualifiedName) ∧
      r'.artifacts = r.artifacts ++ more.map (fun item =>
        (item.artifactKey config.artifactSuffix, item.render)) ∧
      (∀ f ∈ files, ∀ q, f.DeclaresType q →
        r'.artifacts.lookup (q ++ ".Dispose" ++ config.artifactSuffix) =
          r.artifacts.lookup (q ++ ".Dispose" ++ config.artifactSuffix)) ∧
      r.findings <+: r'.findings := by
  obtain ⟨r, hr, hyields⟩ := Pass.exists_yields config files
  obtain ⟨r', hr', hyields'⟩ := Pass.exists_yields config (files ++ [e])
  obtain ⟨more, hitems, hmore⟩ := h.workItems_eq hyields hyields'
  have hartifacts := hyields'.artifacts
  rw [hitems, List.map_append, ← hyields.artifacts] at hartifacts
  refine ⟨r, r', more, hr, hr', hitems, fun item hitem => (hmore item hitem).1, hartifacts, ?_,
    h.findings_prefix hyields hyields'⟩
  intro f hf q hq
  -- no further key is made from a name of the other files
  have hnone : q ++ ".Dispose" ++ config.artifactSuffix ∉
      more.map (·.artifactKey config.artifactSuffix) := by
    intro hmem
    obtain ⟨item, hitem, hkey⟩ := List.mem_map.1 hmem
    obtain ⟨hdeclared, hnamespace⟩ := hmore item hitem
    rw [WorkItem.artifactKey_eq hnamespace, String.append_left_inj, String.append_left_inj] at hkey
    exact h.not_declaresType hf hq (hkey ▸ hdeclared)
  have hlookup : (more.map fun item => (item.artifactKey config.artifactSuffix, item.render)).lookup
      (q ++ ".Dispose" ++ config.artifactSuffix) = none := by
    rw [← Option.not_isSome_iff_eq_none, Assoc.isSome_lookup, List.map_map]
    exact hnone
  rw [hartifacts, List.lookup_append, hlookup, Option.or_none]

/-- Files with a disposable class that has a disposable member. -/
def holderFiles : List SourceFile :=
  [.read "namespace N\x7bpartial class C:System.IDisposable\x7bD d;\x7dclass D:C\x7b\x7d\x7d"]

/-- A file with another class of the same name, in another namespace and disposable through the
first one. -/
def otherFile : SourceFile := .read "namespace M\x7bpartial class C:N.C\x7b\x7d\x7d"

theorem unrelated_file_keeps_output_otherFile :
    Unrelated (Config.sources {} holderFiles) otherFile ∧
      ∃ r r' more, (Pass.ofFiles {} holderFiles).result = .ok r ∧
        (Pass.ofFiles {} (holderFiles ++ [otherFile])).result = .ok r' ∧
        r'.workItems = r.workItems ++ more ∧
        r'.workItems.map WorkItem.qualifiedName = ["N.C", "N.D", "M.C"] ∧
        ∀ item ∈ more, item.qualifiedName = "M.C" := by
  have hunrelated : Unrelated (Config.sources {} holderFiles) otherFile :=
    ⟨by decide +kernel, by decide +kernel, by decide +kernel⟩
  have hnames : ((Pass.ofFiles {} (holderFiles ++ [otherFile])).result.toOption.map fun r =>
      r.workItems.map WorkItem.qualifiedName) = some ["N.C", "N.D", "M.C"] := by decide +kernel
  obtain ⟨r, r', more, hr, hr', hitems, hmore, -⟩ :=
    unrelated_file_keeps_output {} holderFiles otherFile hunrelated
  rw [hr'] at hnames
  refine ⟨hunrelated, r, r', more, hr, hr', hitems, Option.some.inj hnames, fun item hitem => ?_⟩
  have hdeclared : otherFile.typeDecls.map TypeDecl.qualifiedName = ["M.C"] := by decide +kernel
  obtain ⟨d, hd, hname⟩ := hmore item hitem
  have hmem : item.qualifiedName ∈ otherFile.typeDecls.map TypeDecl.qualifiedName :=
    List.mem_map.2 ⟨d, hd, hname⟩
  rw [hdeclared] at hmem
  exact List.mem_singleton.1 hmem

end Disposal
