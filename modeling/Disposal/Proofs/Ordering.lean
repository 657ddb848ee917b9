import Disposal.Proofs.Agreement
import Mathlib.Data.List.Pairwise
import Mathlib.Data.List.Perm.Basic

/-!
# The order of the files

The declarations are collected file by file, and the names in them are resolved when all files are
known.  So the order of the files only matters where several files say something about the same
thing: the first declaration of a type counts most, and global usings are tried in their order.

* `Unsplit`: no type is declared in two files, and one file has all global usings;
* `flatMap_eq_of_perm`: lists of which one is not empty can be joined in any order;
* `Unsplit.symbol?_eq` and `Unsplit.lookup_members_eq`: the tables of such files do not depend on
  their order.

The main statement carries this through a pass: the same types get code, with the same code and the
same findings, in another order.
-/

namespace Disposal

open Declaration

/-! ### Joining lists in another order -/

/-- Where one value at most gives a list that is not empty, the order does not matter. -/
theorem flatMap_eq_of_perm {α β : Type} {g : α → List β} {l l' : List α} (h : l.Perm l')
    (hone : ∀ a ∈ l, ∀ b ∈ l, g a ≠ [] → g b ≠ [] → a = b) : l.flatMap g = l'.flatMap g := by
  induction h with
  | nil => rfl
  | cons a _ ih =>
    have hrest := ih fun b hb c hc => hone b (List.mem_cons_of_mem _ hb) c
      (List.mem_cons_of_mem _ hc)
    rw [List.flatMap_cons, List.flatMap_cons, hrest]
  | swap a b l =>
    simp only [List.flatMap_cons]
    by_cases ha : g a = []
    · simp [ha]
    · by_cases hb : g b = []
      · simp [hb]
      · -- the two are the same
        obtain rfl : a = b := hone a (by simp) b (by simp) ha hb
        rfl
  | trans h₁ _ ih₁ ih₂ =>
    exact (ih₁ hone).trans (ih₂ fun a ha b hb => hone a (h₁.mem_iff.2 ha) b (h₁.mem_iff.2 hb))

/-! ### Files without split types -/

/-- No type is declared in two files, and at most one file has global usings. -/
structure Unsplit (files : List SourceFile) : Prop where
  types : ∀ f ∈ files, ∀ g ∈ files, ∀ q, f.DeclaresType q → g.DeclaresType q → f = g
  globalUsings : ∀ f ∈ files, ∀ g ∈ files, Model.globalUsings f.declarations ≠ [] →
    Model.globalUsings g.declarations ≠ [] → f = g

namespace Unsplit

open Sources

variable {files others : List SourceFile} {b : Bool}

theorem declarationsOf_eq (h : Unsplit files) (hperm : files.Perm others) (q : String) :
    (Sources.mk b files).declarationsOf q = (Sources.mk b others).declarationsOf q := by
  refine flatMap_eq_of_perm hperm fun f hf g hg hne hne' => h.types f hf g hg q ?_ ?_
  · rw [SourceFile.declaresType_iff]
    exact fun hnone => hne (by rw [hnone]; rfl)
  · rw [SourceFile.declaresType_iff]
    exact fun hnone => hne' (by rw [hnone]; rfl)

theorem membersIn_eq (h : Unsplit files) (hperm : files.Perm others) (q : String) :
    membersIn q (Sources.mk b files).declarations =
      membersIn q (Sources.mk b others).declarations := by
  rw [declarations, declarations, membersIn_flatMap, membersIn_flatMap]
  refine flatMap_eq_of_perm hperm fun f hf g hg hne hne' => h.types f hf g hg q ?_ ?_
  · exact not_not.1 fun hnone => hne (SourceFile.membersIn_of_not_declaresType hnone)
  · exact not_not.1 fun hnone => hne' (SourceFile.membersIn_of_not_declaresType hnone)

theorem resolver_eq (h : Unsplit files) (hperm : files.Perm others) :
    (Sources.mk b files).resolver = (Sources.mk b others).resolver := by
  have hknown : (Sources.mk b files).known = (Sources.mk b others).known := by
    funext q
    rw [known, known, h.declarationsOf_eq hperm]
    rfl
  have husings : Model.globalUsings (Sources.mk b files).declarations =
      Model.globalUsings (Sources.mk b others).declarations := by
    rw [globalUsings_declarations, globalUsings_declarations]
    exact flatMap_eq_of_perm hperm h.globalUsings
  rw [resolver, resolver, hknown, husings]

theorem symbol?_eq (h : Unsplit files) (hperm : files.Perm others) (q : String) :
    (Sources.mk b files).symbol? q = (Sources.mk b others).symbol? q := by
  rw [symbol?, symbol?, h.declarationsOf_eq hperm, symbolOf_eq_of_resolver (h.resolver_eq hperm)]
  rfl

theorem lookup_members_eq (h : Unsplit files) (hperm : files.Perm others) (q : String) :
    (Sources.mk b files).model.members.lookup q = (Sources.mk b others).model.members.lookup q := by
  have htypes : typesOf q (Sources.mk b files).declarations =
      typesOf q (Sources.mk b others).declarations := by
    rw [← map_snd_declarationsOf, ← map_snd_declarationsOf, h.declarationsOf_eq hperm]
  have hmerged : Draft.merged q (Sources.mk b files).declarations =
      Draft.merged q (Sources.mk b others).declarations := by
    rw [Draft.merged, Draft.merged, htypes, h.membersIn_eq hperm]
  rw [lookup_members_model, lookup_members_model, hmerged, h.resolver_eq hperm]

theorem membersOf_eq (h : Unsplit files) (hperm : files.Perm others) (q : String) :
    (Sources.mk b files).model.membersOf q = (Sources.mk b others).model.membersOf q := by
  rw [Model.membersOf, Model.membersOf, h.lookup_members_eq hperm]

theorem agree (h : Unsplit files) (hperm : files.Perm others) :
    Agree (fun _ => True) (Sources.mk b files) (Sources.mk b others) where
  symbol q _ := by rw [h.symbol?_eq hperm]
  members q _ _ := by rw [h.membersOf_eq hperm]
  bases _ _ _ _ _ _ := trivial
  types _ _ _ _ _ _ _ := trivial

theorem itemOf?_eq (h : Unsplit files) (hperm : files.Perm others) :
    (Sources.mk b files).itemOf? = (Sources.mk b others).itemOf? := by
  funext i q
  exact (h.agree hperm).itemOf?_eq trivial

theorem findingsOf_eq (h : Unsplit files) (hperm : files.Perm others) :
    (Sources.mk b files).findingsOf = (Sources.mk b others).findingsOf := by
  funext checks i q
  rw [findingsOf, findingsOf, h.symbol?_eq hperm, h.membersOf_eq hperm, h.itemOf?_eq hperm]

/-- **The same types have work in any order of the files.** -/
theorem names_perm (h : Unsplit files) (hperm : files.Perm others) (config : Config) :
    (Pass.names config files).Perm (Pass.names config others) := by
  rw [List.perm_ext_iff_of_nodup Pass.nodup_names Pass.nodup_names]
  intro q
  have hbound : (config.sources files).Bound config.filter q ↔
      (config.sources others).Bound config.filter q :=
    exists_congr fun f => and_congr_left fun _ => hperm.mem_iff
  rw [Pass.mem_names, Pass.mem_names, hbound, Config.sources, Config.sources, h.itemOf?_eq hperm]

end Unsplit

/-! ### The result -/

/-- Two models list the same types and the same members, perhaps in another order. -/
structure Model.SameTables (m m' : Model) : Prop where
  types : ∀ q, m.types.get? q = m'.types.get? q
  members : ∀ q, m.members.lookup q = m'.members.lookup q

/-- Two passes produced the same, perhaps in another order. -/
structure PassResult.SameUpToOrder (r r' : PassResult) : Prop where
  workItems : r.workItems.Perm r'.workItems
  artifacts : ∀ key, r.artifacts.lookup key = r'.artifacts.lookup key
  findings : r.findings.Perm r'.findings
  candidateCount : r.candidateCount = r'.candidateCount

theorem Unsplit.sameUpToOrder {config : Config} {files others : List SourceFile}
    (h : Unsplit files) (hperm : files.Perm others) {r r' : PassResult}
    (hr : Pass.Yields config files r) (hr' : Pass.Yields config others r') :
    r.SameUpToOrder r' := by
  have hnames := h.names_perm hperm config
  have hitems : r.workItems.Perm r'.workItems := by
    rw [hr.workItems, hr'.workItems, Config.sources, Config.sources, h.itemOf?_eq hperm]
    exact hnames.filterMap _
  refine ⟨hitems, fun key => ?_, ?_, ?_⟩
  · -- the keys differ, so each is found wherever it stands
    refine Assoc.lookup_perm hr.keys ?_ key
    rw [hr.artifacts, hr'.artifacts]
    exact hitems.map _
  · rw [hr.findings, hr'.findings, Config.sources, Config.sources, h.findingsOf_eq hperm]
    exact hnames.flatMap_right _
  · rw [hr.candidateCount, hr'.candidateCount, Candidate.length_collect, Candidate.length_collect]
    exact (hperm.flatMap_right _).length_eq

/-- A type of any of the files is found from everywhere, by its name or through a global using of
any of the files. -/
theorem Sources.isSome_resolve? {S : Sources} {f : SourceFile} (hf : f ∈ S.files)
    {q name written : String} (hq : f.DeclaresType q)
    (hname : TypeName.normalize? written = some name)
    (hvia : q = name ∨ ∃ g ∈ S.files, ∃ u ∈ Model.globalUsings g.declarations,
      q = u ++ "." ++ name) (scope : Scope) :
    (S.resolver.resolve? scope written).isSome = true := by
  have hknown : S.resolver.known q = true := by
    obtain ⟨d, hd, hname⟩ := hq
    have hne : S.declarationsOf q ≠ [] := List.ne_nil_of_mem (mem_declarationsOf.2 ⟨hf, hd, hname⟩)
    simp [resolver, known, hne]
  have htried : q ∈ scope.candidates S.resolver.globalUsings name := by
    rcases hvia with rfl | ⟨g, hg, u, hu, rfl⟩
    · exact scope.mem_candidates_self _ q
    · have hmem : u ∈ S.resolver.globalUsings := by
        rw [resolver, globalUsings_declarations]
        exact List.mem_flatMap.2 ⟨g, hg, hu⟩
      simp [Scope.candidates, hmem]
  rw [Model.Resolver.resolve?, hname, Option.bind_some, Scope.lookup?, List.find?_isSome]
  exact ⟨q, htried, hknown⟩

/-- **The order of the files does not matter** if no type is declared in two of them and one has
all global usings: the models list the same types and members, and the passes have results that
differ in the order only.  What one file declares, and what it imports for all files, is seen from
all of them, also from those before it. -/
theorem file_order_irrelevant (config : Config) (files others : List SourceFile)
    (hperm : files.Perm others) (h : Unsplit files) :
    (Model.ofFiles config.includeFramework files).SameTables
      (Model.ofFiles config.includeFramework others) ∧
    (∃ r r', (Pass.ofFiles config files).result = .ok r ∧
      (Pass.ofFiles config others).result = .ok r' ∧ r.SameUpToOrder r') ∧
    ∀ f ∈ files, ∀ q, f.DeclaresType q → ∀ name,
      (q = name ∨ ∃ g ∈ files, ∃ u ∈ Model.globalUsings g.declarations, q = u ++ "." ++ name) →
      ∀ scope written, TypeName.normalize? written = some name →
        ((config.sources others).resolver.resolve? scope written).isSome = true := by
  refine ⟨⟨fun q => ?_, h.lookup_members_eq hperm⟩, ?_, ?_⟩
  · have hfiles := Sources.get?_model (S := config.sources files) q
    have hothers := Sources.get?_model (S := config.sources others) q
    exact (hfiles.trans (h.symbol?_eq hperm q)).trans hothers.symm
  · obtain ⟨r, hr, hyields⟩ := Pass.exists_yields config files
    obtain ⟨r', hr', hyields'⟩ := Pass.exists_yields config others
    exact ⟨r, r', hr, hr', h.sameUpToOrder hperm hyields hyields'⟩
  · intro f hf q hq name hvia scope written hname
    refine Sources.isSome_resolve? (hperm.mem_iff.1 hf) hq hname (hvia.imp id ?_) scope
    rintro ⟨g, hg, husing⟩
    exact ⟨g, hperm.mem_iff.1 hg, husing⟩

/-- Files are unsplit if no two of them declare the same type or have both global usings. -/
theorem Unsplit.of_pairwise {files : List SourceFile} (h : files.Pairwise fun f g =>
    (∀ d ∈ f.typeDecls, ¬ g.DeclaresType d.qualifiedName) ∧
      (Model.globalUsings f.declarations = [] ∨ Model.globalUsings g.declarations = [])) :
    Unsplit files := by
  have htypes : files.Pairwise fun f g => ∀ q, f.DeclaresType q → ¬ g.DeclaresType q := by
    refine h.imp fun hfg q hf hg => ?_
    obtain ⟨d, hd, rfl⟩ := hf
    exact hfg.1 d hd hg
  have husings : files.Pairwise fun f g =>
      Model.globalUsings f.declarations = [] ∨ Model.globalUsings g.declarations = [] :=
    h.imp And.right
  refine ⟨List.Pairwise.forall_of_forall_of_flip ?_ ?_ ?_,
    List.Pairwise.forall_of_forall_of_flip ?_ ?_ ?_⟩
  · exact fun _ _ _ _ _ => rfl
  · exact htypes.imp fun hfg q hf hg => absurd hg (hfg q hf)
  · exact htypes.imp fun hfg q hg hf => absurd hg (hfg q hf)
  · exact fun _ _ _ _ => rfl
  · exact husings.imp fun hfg hf hg => absurd hfg (by simp [hf, hg])
  · exact husings.imp fun hfg hg hf => absurd hfg (by simp [hf, hg])

/-- A file with a class that is disposable through an interface of another file. -/
def userFile : SourceFile := .read "namespace N\x7bpartial class C:IThing\x7b\x7d\x7d"

/-- A file with that interface and the global using that leads to it. -/
def libraryFile : SourceFile :=
  .read "global using Lib;namespace Lib\x7binterface IThing:System.IDisposable\x7b\x7d\x7d"

theorem file_order_irrelevant_userFile :
    [userFile, libraryFile].Perm [libraryFile, userFile] ∧ Unsplit [userFile, libraryFile] ∧
      ((Config.sources {} [libraryFile, userFile]).resolver.resolve? {} "IThing").isSome = true ∧
      ∃ r r', (Pass.ofFiles {} [userFile, libraryFile]).result = .ok r ∧
        (Pass.ofFiles {} [libraryFile, userFile]).result = .ok r' ∧
        r.workItems.map WorkItem.qualifiedName = ["N.C"] ∧ r.SameUpToOrder r' := by
  have hperm : [userFile, libraryFile].Perm [libraryFile, userFile] := .swap ..
  have hunsplit : Unsplit [userFile, libraryFile] := .of_pairwise (by decide +kernel)
  have hnames : ((Pass.ofFiles {} [userFile, libraryFile]).result.toOption.map fun r =>
      r.workItems.map WorkItem.qualifiedName) = some ["N.C"] := by decide +kernel
  obtain ⟨-, ⟨r, r', hr, hr', hsame⟩, hvisible⟩ :=
    file_order_irrelevant {} [userFile, libraryFile] [libraryFile, userFile] hperm hunsplit
  rw [hr] at hnames
  refine ⟨hperm, hunsplit, ?_, r, r', hr, hr', Option.some.inj hnames, hsame⟩
  refine hvisible libraryFile (by simp) "Lib.IThing" (by decide +kernel) "IThing" (.inr ?_) {} _
    (by decide +kernel)
  exact ⟨libraryFile, by simp, "Lib", by decide +kernel, rfl⟩

end Disposal
