import Disposal.Proofs.Running
import Disposal.Proofs.Storing
import Disposal.Reader

/-!
# Running twice

A run writes generated sources only, and a search does not find these.  So a second run on the disk
that the first one leaves reads the same files, generates the same sources and writes them to the
same places, even if these are below the target.  A source that was stored under a relative path can
have a path from the root that is too long, though, and end the listing of its directory.

* `Command.isGeneratedPath_artifact`: the path of a source ends with the name of a generated one,
  whatever its type is called;
* `Command.stored_again`: storing the sources of a result once more is no change;
* `Command.rerun_idempotent` is the result for whole runs, and `Command.rerun_misses_limitSource` a
  run whose stored source hides the file it was made from.
-/

namespace Disposal

/-! ### Names of sources -/

theorem Text.exists_splitAt_append {p : Char → Bool} {tail : List Char}
    (h : ∀ c ∈ tail, p c = false) (s : List Char) :
    ∃ parts last, splitAt p (s ++ tail) = parts ++ [last ++ tail] := by
  induction s with
  | nil => exact ⟨[], [], splitAt_eq_singleton h⟩
  | cons c s ih =>
    obtain ⟨parts, last, heq⟩ := ih
    rw [List.cons_append, splitAt, heq]
    split_ifs
    · exact ⟨[] :: parts, last, rfl⟩
    · cases parts with
      | nil => exact ⟨[], c :: last, rfl⟩
      | cons part parts => exact ⟨(c :: part) :: parts, last, rfl⟩

/-- The end of the name of every generated source. -/
def sourceEnding : List Char := ".Dispose.g.cs".toList

theorem isGenerated_sourceEnding (s : List Char) :
    Search.isGenerated ⟨.relative, [String.ofList (s ++ sourceEnding)]⟩ = true := by
  have hending : ".g.cs".toList <:+ sourceEnding.map Char.toLower := by decide
  have hname : (Path.mk .relative [String.ofList (s ++ sourceEnding)]).name =
      String.ofList (s ++ sourceEnding) := rfl
  rw [Search.isGenerated, List.any_eq_true]
  refine ⟨".g.cs", by decide, ?_⟩
  rw [List.isSuffixOf_iff_suffix, hname, Search.lower, String.toList_ofList, String.toList_ofList,
    String.toList_ofList, List.map_append]
  exact hending.trans (List.suffix_append _ _)

/-- A name that ends like that of a generated source is a name in a directory. -/
theorem ne_of_sourceEnding (s : List Char) {t : String} (ht : 'D' ∉ t.toList) :
    String.ofList (s ++ sourceEnding) ≠ t := by
  rintro rfl
  refine ht ?_
  rw [String.toList_ofList]
  exact List.mem_append_right _ (by decide)

theorem Path.exists_components_append (s : List Char) : ∃ ns name,
    components (s ++ sourceEnding) = ns ++ [name] ∧ name ≠ ".." ∧
      Search.isGenerated ⟨.relative, [name]⟩ = true := by
  have hall : (sourceEnding.all fun c => !decide (c = '/')) = true := by decide
  have hcuts : ∀ c ∈ sourceEnding, decide (c = '/') = false := fun c hc => by
    simpa only [Bool.not_eq_true'] using List.all_eq_true.1 hall c hc
  obtain ⟨parts, last, hparts⟩ := Text.exists_splitAt_append hcuts s
  refine ⟨(parts.map String.ofList).filter fun part => part ≠ "" && part ≠ ".",
    String.ofList (last ++ sourceEnding), ?_, ne_of_sourceEnding _ (by decide),
    isGenerated_sourceEnding _⟩
  have hempty := ne_of_sourceEnding last (t := "") (by decide)
  have hdot := ne_of_sourceEnding last (t := ".") (by decide)
  rw [components, hparts, List.map_append, List.filter_append, List.map_singleton,
    List.filter_cons_of_pos (by simp only [hempty, hdot, ne_eq, not_false_eq_true, decide_true,
      Bool.and_self]), List.filter_nil]

namespace Command

open Disk

variable {disk after again : Disk} {parse : Parser} {display : Display} {o : Options}

theorem isGeneratedPath_artifact (root : Path) (item : WorkItem) :
    Disk.IsGeneratedPath (root.join (.ofString (item.artifactKey ".g.cs"))) := by
  have hkey : (item.artifactKey ".g.cs").toList =
      (item.namespaceName ++ "." ++ item.className).toList ++ sourceEnding := by
    rw [WorkItem.artifactKey, String.append_assoc, String.toList_append]
    rfl
  obtain ⟨ns, name, hparts, hup, hgenerated⟩ :=
    Path.exists_components_append (item.namespaceName ++ "." ++ item.className).toList
  have hparts : (Path.ofString (item.artifactKey ".g.cs")).parts = ns ++ [name] := by
    rw [Path.ofString, hkey, hparts]
  rw [Path.join]
  split_ifs
  · exact ⟨ns, name, hparts, hup, hgenerated⟩
  · exact ⟨root.parts ++ ns, name, by rw [hparts, List.append_assoc], hup, hgenerated⟩

/-! ### Runs -/

theorem stored_again (htree : disk.IsTree) {artifacts : List (String × String)}
    (hartifacts : ∀ a ∈ artifacts, ∃ item : WorkItem, a.1 = item.artifactKey ".g.cs")
    {written : List Path} (h : stored disk o artifacts = (after, written, none)) :
    Disk.Preserves disk after ∧ ∀ again : Disk, again.IsTree → after.Relists again →
      stored again o artifacts = (again, written, none) := by
  simp only [stored] at h ⊢
  cases hout : o.out with
  | none =>
    rw [hout] at h
    obtain ⟨rfl, hwritten⟩ := Prod.mk.inj h
    obtain ⟨rfl, -⟩ := Prod.mk.inj hwritten
    exact ⟨.refl htree, fun _ _ _ => rfl⟩
  | some out =>
    rw [hout] at h
    refine htree.writeAll_again (fun a ha => ?_) h
    obtain ⟨item, hitem⟩ := hartifacts a ha
    rw [hitem]
    exact isGeneratedPath_artifact _ item

theorem report_congr (h : again.workingDirectory = disk.workingDirectory) (o : Options)
    (result : PassResult) : report again o result = report disk o result := by
  have hshorten : again.shorten = disk.shorten := by
    funext p
    rw [Disk.shorten, Disk.shorten, Disk.currentPath, Disk.currentPath, h]
  rw [report, report, hshorten]

/-- The paths of all entries below the target that a search looks at can be used. -/
def TargetUsable (disk : Disk) (target : Path) : Prop :=
  ∀ es, disk.entry target = .ok (.directory es) → Search.Usable {} target (.directory es)

theorem Valid.of_preserves (h : Valid disk o) (htree : disk.IsTree)
    (hdirectory : disk.isDirectory o.target = true) (hpreserves : Disk.Preserves disk after)
    (hrelists : after.Relists again) : Valid again o where
  resolved := by
    rw [hrelists.realPath_eq, hpreserves.toGrows.realPath htree hpreserves.tree, h.resolved]
  place := by
    rw [hrelists.isDirectory_eq]
    exact .inr (hpreserves.toGrows.isDirectory htree hpreserves.tree hdirectory)

/-- What is found below a target if all paths can be used, and what is said then. -/
theorem Valid.targetFiles_of_usable (h : Valid disk o) (htree : disk.IsTree)
    (hdirectory : disk.isDirectory o.target = true) (husable : TargetUsable disk o.target)
    {files : List Path} (hfind : Search.find disk {} o.target = .ok files) :
    targetFiles disk o.target = (.ok files,
      Search.log disk o.target (.ok ⟨files, []⟩) ++ emptyLog o.target files) := by
  obtain ⟨es, hentry⟩ := isDirectory_iff.1 hdirectory
  have hroot : disk.entry (disk.realPath o.target) = .ok (.directory es) := by
    rw [h.resolved, hentry]
  have hfiles := (Search.find_of_entry rfl hroot).symm.trans hfind
  rw [h.resolved, Except.ok.injEq] at hfiles
  rw [h.targetFiles_of_directory hentry, hfiles, (husable es hentry).said_below rfl
    (Disk.DistinctNames.of_entry htree.distinctNames hentry)]

/-- On a disk whose directories are listed in another order after a run, its target has the same
files, if all paths below it can be used. -/
theorem Valid.find_eq (h : Valid disk o) (htree : disk.IsTree)
    (hdirectory : disk.isDirectory o.target = true) (hpreserves : Disk.Preserves disk after)
    (hagain : again.IsTree) (hrelists : after.Relists again)
    (husable : TargetUsable after o.target) :
    Search.find again {} o.target = Search.find disk {} o.target := by
  obtain ⟨es, hes⟩ := isDirectory_iff.1 hdirectory
  obtain ⟨es', hes'⟩ := isDirectory_iff.1
    (hpreserves.toGrows.isDirectory htree hpreserves.tree hdirectory)
  have hafter : after.realPath o.target = o.target := by
    rw [hpreserves.toGrows.realPath htree hpreserves.tree, h.resolved]
  have hrelisted : Search.find again {} o.target = Search.find after {} o.target :=
    Search.find_of_relists rfl hpreserves.tree.distinctNames hagain.distinctNames hrelists
      (hafter.symm ▸ hes') (hafter.symm ▸ husable es' hes')
  exact hrelisted.trans (hpreserves.find_eq htree h.resolved hes hes' (husable es' hes'))

theorem TargetUsable.of_preserves (h : TargetUsable after o.target) (htree : disk.IsTree)
    (hpreserves : Disk.Preserves disk after) : TargetUsable disk o.target := by
  intro es hes
  obtain ⟨place, hplace, hes⟩ := entry_eq_ok.1 hes
  obtain ⟨es', hes'⟩ := hpreserves.directory hes
  have hafter := hpreserves.toGrows.resolve htree hpreserves.tree hplace (.inl rfl)
  exact hpreserves.usable htree hes hes' (h es' (entry_eq_ok.2 ⟨place, hafter, hes'⟩))

theorem TargetUsable.of_relists (h : TargetUsable after o.target) (hrelists : after.Relists again) :
    TargetUsable again o.target := by
  intro es hes
  obtain ⟨es', hes', houtside⟩ := hrelists.symm.exists_entry_eq_ok hes
  exact (h es' hes').of_outside fun names => (houtside names).symm

/-- The files of a target are the same on a disk that is listed in another order after a run, and
looking for them says the same. -/
theorem Valid.targetFiles_again (h : Valid disk o) (htree : disk.IsTree)
    (hdirectory : disk.isDirectory o.target = true) (hpreserves : Disk.Preserves disk after)
    (hagain : again.IsTree) (hrelists : after.Relists again)
    (husable : TargetUsable after o.target) :
    ∃ files said, Search.find disk {} o.target = .ok files ∧
      Search.find again {} o.target = .ok files ∧
      targetFiles disk o.target = (.ok files, said) ∧
      targetFiles again o.target = (.ok files, said) := by
  have hvalid := h.of_preserves htree hdirectory hpreserves hrelists
  have hdirectory' : again.isDirectory o.target = true :=
    (hrelists.isDirectory_eq _).trans
      (hpreserves.toGrows.isDirectory htree hpreserves.tree hdirectory)
  obtain ⟨es, hes⟩ := isDirectory_iff.1 hdirectory
  obtain ⟨files, hfind⟩ : ∃ files, Search.find disk {} o.target = .ok files :=
    ⟨_, Search.find_of_entry rfl (h.resolved.symm ▸ hes)⟩
  have hfind' := (h.find_eq htree hdirectory hpreserves hagain hrelists husable).trans hfind
  have hsaid : ∀ w, Search.log again o.target (.ok w) = Search.log disk o.target (.ok w) := by
    intro w
    simp only [Search.log, h.resolved, hvalid.resolved]
  have hfound := h.targetFiles_of_usable htree hdirectory (husable.of_preserves htree hpreserves)
    hfind
  have hfound' := hvalid.targetFiles_of_usable hagain hdirectory' (husable.of_relists hrelists)
    hfind'
  rw [hsaid] at hfound'
  exact ⟨files, _, hfind, hfind', hfound, hfound'⟩

/-- **Running twice is running once.**  On a disk without links, let a run with a directory for its
target not fail to store its sources.  Then every file that the search finds holds the same bytes
afterwards.  If moreover no path below the target is too long then, the paths of the stored sources
among them, the search finds the same files on the disk that the run leaves, in whatever order its
directories are listed by now, the pass over them has the same result, and a second run ends like
the first, says the same and leaves the disk as it is. -/
theorem rerun_idempotent (htree : disk.IsTree) (h : Valid disk o)
    (hdirectory : disk.isDirectory o.target = true)
    (hdisk : ∀ e, (run disk parse display o).outcome ≠ .failed (.disk e)) :
    (∀ paths, Search.find disk {} o.target = .ok paths →
      ∀ p ∈ paths, (run disk parse display o).disk.read p = disk.read p) ∧
    (TargetUsable (run disk parse display o).disk o.target →
      ∀ again : Disk, again.IsTree → (run disk parse display o).disk.Relists again →
        (∃ paths said result, Search.find disk {} o.target = .ok paths ∧
          Search.find again {} o.target = .ok paths ∧
          targetFiles disk o.target = (.ok paths, said) ∧
          targetFiles again o.target = (.ok paths, said) ∧
          (Pass.ofFiles (.standard o.strict o.reportEmpty)
            (loadedFiles disk parse paths)).result = .ok result ∧
          (Pass.ofFiles (.standard o.strict o.reportEmpty)
            (loadedFiles again parse paths)).result = .ok result) ∧
        run again parse display o = { run disk parse display o with disk := again }) := by
  obtain ⟨paths, said, result, written, hpaths, hresult, hstored, hrun⟩ := h.run_completes hdisk
  generalize hfirst : run disk parse display o = first at *
  have hartifacts : ∀ a ∈ result.artifacts, ∃ item : WorkItem, a.1 = item.artifactKey ".g.cs" := by
    intro a ha
    rw [Pass.artifacts_of_result (Pass.result_eq_ok hresult)] at ha
    obtain ⟨item, -, rfl⟩ := List.mem_map.1 ha
    exact ⟨item, rfl⟩
  obtain ⟨hpreserves, hstoredagain⟩ := stored_again htree hartifacts hstored
  refine ⟨fun found hfound p hp => hpreserves.read_eq htree hfound hp, ?_⟩
  intro husable again hagain hrelists
  have hvalid := h.of_preserves htree hdirectory hpreserves hrelists
  obtain ⟨files, said', hfind, hfind', hfound, hfound'⟩ :=
    h.targetFiles_again htree hdirectory hpreserves hagain hrelists husable
  obtain ⟨hsame, rfl⟩ := Prod.mk.inj (hfound.symm.trans hpaths)
  obtain rfl := Except.ok.inj hsame
  -- the same files are loaded, so the second run does what the first did
  have hloads : files.map (Loaded.ofPath again parse) = files.map (Loaded.ofPath disk parse) := by
    refine List.map_congr_left ?_
    intro p hp
    rw [Loaded.ofPath, Loaded.ofPath, hrelists.read_eq, hpreserves.read_eq htree hfind hp]
  have hfiles : loadedFiles again parse files = loadedFiles disk parse files := by
    rw [loadedFiles, hloads, loadedFiles]
  have hlog : analysisLog again parse o files = analysisLog disk parse o files := by
    rw [analysisLog, hloads, hfiles, analysisLog]
  have hresult' : (Pass.ofFiles (.standard o.strict o.reportEmpty)
      (loadedFiles again parse files)).result? = some result := by
    rw [hfiles, hresult]
  have hending : ending again display o result = ending first.disk display o result := by
    rw [ending, ending, report_congr hrelists.workingDirectory]
  refine ⟨⟨files, said', result, hfind, hfind', hfound, hfound', Pass.result_eq_ok hresult,
    Pass.result_eq_ok hresult'⟩, ?_⟩
  rw [hvalid.run_eq_of_stored _ hfound' hresult' (hstoredagain again hagain hrelists), hlog,
    hending]
  rw [hrun]

/-- The bytes of a partial class. -/
def partialClass : Text.Bytes :=
  Text.encode "namespace N\x7bpartial class A:System.IDisposable\x7b\x7d\x7d"

/-- The text that is generated for this class. -/
def partialSource : String := WorkItem.render { namespaceName := "N", className := "A" }

/-- A display that shows the texts with marks, one to a line. -/
def textDisplay : Display where
  print part := .ok part.markedTexts

theorem artifacts_partialClass (p : Path)
    (hitems : (Pass.ofFiles (.standard false false)
      [.ofBytes Reader.parse p partialClass]).result.toOption.map PassResult.workItems =
        some [{ namespaceName := "N", className := "A" }]) :
    ∃ result, (Pass.ofFiles (.standard false false)
      [.ofBytes Reader.parse p partialClass]).result? = some result ∧
        result.artifacts = [("N.A.Dispose.g.cs", partialSource)] := by
  obtain ⟨result, hresult, hok, hyields⟩ := Pass.exists_result? (.standard false false)
    [.ofBytes Reader.parse p partialClass]
  refine ⟨result, hresult, ?_⟩
  rw [hok] at hitems
  rw [hyields.artifacts, Option.some.inj hitems]
  rfl

section InPlace

/-- A source that is analysed, and the source that is generated for it. -/
def writtenSource : String × Entry := ("a.cs", .file partialClass)

/-- The source that is generated. -/
def generatedSource : String × Entry := ("N.A.Dispose.g.cs", .file (Text.encode partialSource))

/-- A directory is analysed, and generated sources are written into the working directory. -/
def inPlace (names : List String) : Options where
  target := ⟨.slash, names⟩
  out := some ⟨.relative, []⟩

theorem isTree_writtenSource : (Entry.directory [writtenSource]).IsTree :=
  .directory (by decide) (by decide) (List.forall_mem_singleton.2 (.file _))

theorem isTree_storedSource : (Entry.directory [writtenSource, generatedSource]).IsTree := by
  refine .directory ?_ ?_ (List.forall_mem_cons.2 ⟨.file _, List.forall_mem_singleton.2 (.file _)⟩)
  · simp [generatedSource, writtenSource]
  · simp [generatedSource, writtenSource]

/-- The generated source is listed before the other. -/
def generatedFirst : Directory := [generatedSource, writtenSource]

theorem isTree_generatedFirst : (Entry.directory generatedFirst).IsTree :=
  isTree_storedSource.of_perm (.swap ..)

theorem relists_generatedFirst (names : List String) :
    (Disk.nested names [writtenSource, generatedSource]).Relists
      (Disk.nested names generatedFirst) :=
  Disk.relists_nested names (by simp [generatedSource, writtenSource]) (.swap ..)

variable {names : List String} {es : Directory}

theorem valid_inPlace (h : Disk.Enterable names) (hes : (Entry.directory es).IsTree) :
    Valid (.nested names es) (inPlace names) where
  resolved := h.realPath_eq hes
  place := .inr (Disk.isDirectory_iff.2 ⟨es, h.entry_eq hes⟩)

theorem stored_inPlace (h : Disk.Enterable names) :
    stored (.nested names [writtenSource]) (inPlace names) [("N.A.Dispose.g.cs", partialSource)] =
      (.nested names [writtenSource, generatedSource], [⟨.relative, ["N.A.Dispose.g.cs"]⟩],
        none) := by
  have htree := h.isTree isTree_writtenSource
  have hplace : (Disk.nested names [writtenSource]).entryAt? names =
      some (.directory [writtenSource]) := Entry.below?_nested names _
  have hroot : (Disk.nested names [writtenSource]).isDirectory ⟨.relative, []⟩ = true := by
    refine isDirectory_iff.2 ⟨_, entry_eq_ok.2 ⟨names, ?_, hplace⟩⟩
    exact htree.resolve_eq_ok.2 ⟨by decide, .here names⟩
  have hpath : (Path.mk .relative []).join (.ofString "N.A.Dispose.g.cs") =
      ⟨.relative, ["N.A.Dispose.g.cs"]⟩ := by decide
  have hfree : (Disk.nested names [writtenSource]).resolve ⟨.relative, ["N.A.Dispose.g.cs"]⟩ =
      .ok (.absent names "N.A.Dispose.g.cs") :=
    htree.resolve_eq_ok.2 ⟨by decide, .free hplace (by decide) (by decide) (by decide)⟩
  simp only [stored, inPlace, Disk.writeAll, htree.makeDirectory_eq hroot, hpath, Disk.write, hfree,
    Disk.nested_put]
  rfl

/-- The first run finds the source and writes the generated one beside it. -/
theorem run_inPlace (h : Disk.Enterable names)
    (hfault : Search.entryFault? ⟨.slash, names⟩ "a.cs" = none)
    (hitems : (Pass.ofFiles (.standard false false)
      [.ofBytes Reader.parse ((Path.mk .slash names).child "a.cs")
        partialClass]).result.toOption.map PassResult.workItems =
          some [{ namespaceName := "N", className := "A" }]) :
    Search.find (.nested names [writtenSource]) {} ⟨.slash, names⟩ =
        .ok [(Path.mk .slash names).child "a.cs"] ∧
      ∃ success lines, (run (.nested names [writtenSource]) Reader.parse textDisplay
          (inPlace names)).outcome = .complete success lines ∧
        (run (.nested names [writtenSource]) Reader.parse textDisplay (inPlace names)).disk =
          .nested names [writtenSource, generatedSource] := by
  have hvalid := valid_inPlace h isTree_writtenSource
  have hbelow : (Search.below {} ⟨.slash, names⟩ (.directory [writtenSource])).files =
      [(Path.mk .slash names).child "a.cs"] := by
    have hwants : Search.Query.wants {} ((Path.mk .slash names).child "a.cs") = true :=
      (Search.wants_child ..).trans (by decide)
    rw [Search.below_directory rfl (List.forall_mem_singleton.2 hfault), List.flatMap_singleton,
      writtenSource, Search.found_file, Search.Walk.file, if_pos hwants]
  have hfind := h.find_eq isTree_writtenSource
  rw [hbelow, List.mergeSort_singleton] at hfind
  have hpaths := hvalid.targetFiles_of_directory (h.entry_eq isTree_writtenSource)
  simp only [inPlace, hbelow, List.mergeSort_singleton] at hpaths
  obtain ⟨result, hresult, hartifacts⟩ := artifacts_partialClass _ hitems
  have hentry := h.entry_child isTree_writtenSource rfl hfault
  rw [← loadedFiles_of_entry Reader.parse hentry] at hresult
  have hstored := stored_inPlace h
  rw [← hartifacts] at hstored
  have hrun := hvalid.run_eq_of_stored textDisplay hpaths hresult hstored
  obtain ⟨success, lines, hending⟩ := (ending_eq_complete_iff
    (.nested names [writtenSource, generatedSource]) textDisplay (inPlace names) result).2
    fun part _ => ⟨part.markedTexts, rfl⟩
  exact ⟨hfind, success, lines, by rw [hrun, ← hending], by rw [hrun]⟩

/-- The generated source is written beside the source, and is listed before it afterwards.  The
second run does not see it. -/
theorem rerun_idempotent_inPlace :
    let disk : Disk := .nested ["t"] [writtenSource]
    let again : Disk := .nested ["t"] generatedFirst
    let first := run disk Reader.parse textDisplay (inPlace ["t"])
    first.disk = .nested ["t"] [writtenSource, generatedSource] ∧ again.IsTree ∧
      first.disk.Relists again ∧ TargetUsable first.disk ⟨.slash, ["t"]⟩ ∧
      Search.find disk {} ⟨.slash, ["t"]⟩ = .ok [⟨.slash, ["t", "a.cs"]⟩] ∧
      first.disk.read ⟨.slash, ["t", "a.cs"]⟩ = disk.read ⟨.slash, ["t", "a.cs"]⟩ ∧
      Search.find again {} ⟨.slash, ["t"]⟩ = .ok [⟨.slash, ["t", "a.cs"]⟩] ∧
      run again Reader.parse textDisplay (inPlace ["t"]) = { first with disk := again } := by
  intro disk again first
  have henter : Disk.Enterable ["t"] := ⟨by decide, by decide, by decide⟩
  have htree : disk.IsTree := henter.isTree isTree_writtenSource
  have hvalid : Valid disk (inPlace ["t"]) := valid_inPlace henter isTree_writtenSource
  have hitems : (Pass.ofFiles (.standard false false)
      [.ofBytes Reader.parse ((Path.mk .slash ["t"]).child "a.cs")
        partialClass]).result.toOption.map PassResult.workItems =
          some [{ namespaceName := "N", className := "A" }] := by
    decide +kernel
  obtain ⟨hfind, success, lines, houtcome, hdisk⟩ := run_inPlace henter (by decide) hitems
  have hagain : again.IsTree := henter.isTree isTree_generatedFirst
  have hrelists : first.disk.Relists again := by
    rw [hdisk]
    exact relists_generatedFirst ["t"]
  have husable : TargetUsable first.disk ⟨.slash, ["t"]⟩ := by
    intro es hes
    rw [hdisk, henter.entry_eq isTree_storedSource] at hes
    obtain rfl := Entry.directory.inj (Except.ok.inj hes)
    refine .directory (List.forall_mem_cons.2 ⟨⟨by decide, fun _ => .file _⟩, ?_⟩)
    exact List.forall_mem_singleton.2 ⟨by decide, fun _ => .file _⟩
  have hcomplete : ∀ e,
      (run disk Reader.parse textDisplay (inPlace ["t"])).outcome ≠ .failed (.disk e) := by
    intro e he
    rw [houtcome] at he
    cases he
  obtain ⟨hread, hrerun⟩ := rerun_idempotent htree hvalid
    (isDirectory_iff.2 ⟨_, henter.entry_eq isTree_writtenSource⟩) hcomplete
  obtain ⟨⟨paths, said, result, hpaths, hfound, -⟩, hagainrun⟩ :=
    hrerun husable again hagain hrelists
  obtain rfl := Except.ok.inj (hpaths.symm.trans hfind)
  exact ⟨hdisk, hagain, hrelists, husable, hfind, hread _ hfind _ (List.mem_singleton_self _),
    hfound, hagainrun⟩

theorem find_generatedFirst (h : Disk.AtLimit names) :
    Search.find (.nested names generatedFirst) {} ⟨.slash, names⟩ = .ok [] := by
  rw [h.enterable.find_eq isTree_generatedFirst, generatedFirst, generatedSource,
    h.below_cons_of_long (by decide) (by decide) (by decide), List.mergeSort_nil]

theorem entryFault?_writtenSource (h : Disk.AtLimit names) :
    Search.entryFault? ⟨.slash, names⟩ "a.cs" = none := by
  rw [h.entryFault?_eq (by decide) (by decide), if_neg (by decide)]

/-- A run can hide the source that it analysed: the path of the generated source is longer, and if
it is too long and listed first, the next search finds nothing. -/
theorem rerun_misses_limitSource :
    let target : Path := ⟨.slash, Disk.limitNames⟩
    let disk : Disk := .nested Disk.limitNames [writtenSource]
    let again : Disk := .nested Disk.limitNames generatedFirst
    let first := run disk Reader.parse textDisplay (inPlace Disk.limitNames)
    disk.IsTree ∧ Valid disk (inPlace Disk.limitNames) ∧ disk.isDirectory target = true ∧
      (∃ success lines, first.outcome = .complete success lines) ∧
      again.IsTree ∧ first.disk.Relists again ∧
      Search.find disk {} target = .ok [target.child "a.cs"] ∧
      Search.find again {} target = .ok [] := by
  have hlimit := Disk.atLimit_limitNames
  have henter := hlimit.enterable
  have hitems : (Pass.ofFiles (.standard false false)
      [.ofBytes Reader.parse ((Path.mk .slash Disk.limitNames).child "a.cs")
        partialClass]).result.toOption.map PassResult.workItems =
          some [{ namespaceName := "N", className := "A" }] := by
    decide +kernel
  obtain ⟨hfind, success, lines, houtcome, hdisk⟩ :=
    run_inPlace henter (entryFault?_writtenSource hlimit) hitems
  refine ⟨henter.isTree isTree_writtenSource, valid_inPlace henter isTree_writtenSource,
    isDirectory_iff.2 ⟨_, henter.entry_eq isTree_writtenSource⟩, ⟨success, lines, houtcome⟩,
    henter.isTree isTree_generatedFirst, ?_, hfind, find_generatedFirst hlimit⟩
  rw [hdisk]
  exact relists_generatedFirst Disk.limitNames

end InPlace

end Command

end Disposal
