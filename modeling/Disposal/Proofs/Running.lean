import Disposal.Command
import Disposal.Proofs.Agreement
import Disposal.Proofs.Following
import Disposal.Proofs.Searching

/-!
# Runs of the command

What a run with a valid target does, step by step: it looks for the files of its target, analyses
them, stores the generated sources and shows the result.

* `Command.Valid` says which targets are valid, and `Command.Valid.run_eq` that a run with one
  analyses its files;
* `Command.stored` is the disk after the generated sources are written, `Command.ending` how a run
  ends whose sources are stored, and `Command.analyse_eq` puts these together.
-/

namespace Disposal

/-- What a pass computes without cancellation is put together from the names with work. -/
theorem Pass.exists_result? (config : Config) (files : List SourceFile) :
    ∃ result, (ofFiles config files).result? = some result ∧
      (ofFiles config files).result = .ok result ∧ Yields config files result := by
  obtain ⟨yielded, hyielded, hyields⟩ := exists_yields config files
  obtain ⟨result, hresult⟩ : ∃ result, (ofFiles config files).result? = some result := by
    rw [result?, resolved?_ofFiles]
    exact ⟨_, rfl⟩
  obtain rfl : result = yielded := Except.ok.inj ((result_eq_ok hresult).symm.trans hyielded)
  exact ⟨result, hresult, hyielded, hyields⟩

/-! ### Displays -/

section Except

variable {ε α β : Type}

theorem exists_mapM_eq_ok {f : α → Except ε β} {xs : List α} :
    (∃ ys, xs.mapM f = .ok ys) ↔ ∀ x ∈ xs, ∃ y, f x = .ok y := by
  induction xs with
  | nil => simp [pure, Except.pure]
  | cons x xs ih =>
    rw [List.mapM_cons, List.forall_mem_cons, ← ih]
    cases f x with
    | error e => simp [bind, Except.bind]
    | ok y => cases xs.mapM f <;> simp [bind, Except.bind, pure, Except.pure]

end Except

namespace Display

variable {d : Display}

theorem exists_printAll_iff {parts : List Part} :
    (∃ lines, d.printAll parts = .ok lines) ↔ ∀ part ∈ parts, d.Shows part := by
  simp only [Shows, ← exists_mapM_eq_ok, printAll]
  cases parts.mapM d.print <;> simp [Except.map]

end Display

namespace Command

variable {disk : Disk} {parse : Parser} {display : Display} {o : Options} {es : Directory}

/-! ### Valid targets -/

/-- The target of a run is valid on a disk: its path is one from the root without links, and it
leads to a source file or a directory. -/
structure Valid (disk : Disk) (o : Options) : Prop where
  resolved : disk.realPath o.target = o.target
  place : disk.isFile o.target = true ∧ Search.isSource o.target = true ∨
    disk.isDirectory o.target = true

/-- What is said if a search finds nothing. -/
def emptyLog (target : Path) (files : List Path) : List Log.Record :=
  if files.isEmpty then [⟨.warning, .command, "No .cs files found under " ++ target.toString⟩]
  else []

theorem Valid.targetFiles_of_directory (h : Valid disk o)
    (hentry : disk.entry o.target = .ok (.directory es)) :
    targetFiles disk o.target =
      let found : Search.Walk :=
        ⟨(Search.below {} o.target (.directory es)).files.mergeSort Path.le,
        (Search.below {} o.target (.directory es)).said⟩
      (.ok found.files,
        Search.log disk o.target (.ok found) ++ emptyLog o.target found.files) := by
  have hfile : disk.isFile o.target = false := by rw [Disk.isFile, hentry]
  have hdirectory : disk.isDirectory o.target = true := by rw [Disk.isDirectory, hentry]
  have hroot : disk.entry (disk.realPath o.target) = .ok (.directory es) := by
    rw [h.resolved, hentry]
  rw [targetFiles, hfile, hdirectory, Search.walk_of_entry rfl hroot, h.resolved]
  rfl

theorem targetFiles_of_source {target : Path} {bytes : Text.Bytes}
    (hentry : disk.entry target = .ok (.file bytes)) (hsource : Search.isSource target = true) :
    targetFiles disk target = (.ok [target], []) := by
  have hfile : disk.isFile target = true := by rw [Disk.isFile, hentry]
  rw [targetFiles, hfile, hsource]
  rfl

/-- **A run with a valid target** analyses its files. -/
theorem Valid.run_eq (h : Valid disk o) (parse : Parser) (display : Display) :
    ∃ paths said, targetFiles disk o.target = (.ok paths, said) ∧
      run disk parse display o = { analyse disk parse display o paths with
        log := said ++ (analyse disk parse display o paths).log } := by
  obtain ⟨paths, said, hfiles⟩ : ∃ paths said, targetFiles disk o.target = (.ok paths, said) := by
    rcases h.place with ⟨hfile, hsource⟩ | hdirectory
    · exact ⟨[o.target], [], by rw [targetFiles, hfile, hsource]; rfl⟩
    · obtain ⟨es, hentry⟩ := Disk.isDirectory_iff.1 hdirectory
      exact ⟨_, _, h.targetFiles_of_directory hentry⟩
  refine ⟨paths, said, hfiles, ?_⟩
  rw [run, hfiles]

/-! ### Storing and ending -/

/-- The disk after generated sources are stored, if a directory is given for them, the paths
written, and why it failed. -/
def stored (disk : Disk) (o : Options) (artifacts : List (String × String)) :
    Disk × List Path × Option OsError :=
  match o.out with
  | none => (disk, [], none)
  | some out => disk.writeAll out artifacts

/-- How a run ends whose sources are stored. -/
def ending (disk : Disk) (display : Display) (o : Options) (result : PassResult) : Outcome :=
  match display.printAll (report disk o result) with
  | .ok lines => .complete (!result.findings.any Finding.isError) lines
  | .error e => .failed (.display e)

/-- The files of some paths. -/
def loadedFiles (disk : Disk) (parse : Parser) (paths : List Path) : List SourceFile :=
  Loaded.files (paths.map (Loaded.ofPath disk parse))

theorem loadedFiles_of_entry (parse : Parser) {target : Path} {bytes : Text.Bytes}
    (hentry : disk.entry target = .ok (.file bytes)) :
    loadedFiles disk parse [target] = [.ofBytes parse target bytes] := by
  rw [loadedFiles, List.map_singleton, Loaded.ofPath, Disk.read, hentry]
  rfl

/-- What is said until the sources are stored. -/
def analysisLog (disk : Disk) (parse : Parser) (o : Options) (paths : List Path) :
    List Log.Record :=
  (paths.map (Loaded.ofPath disk parse)).flatMap Loaded.log ++
    (Pass.ofFiles (.standard o.strict o.reportEmpty) (loadedFiles disk parse paths)).analysisLog

/-- An analysis stores the sources of its result and shows it, unless storing fails. -/
theorem analyse_eq {paths : List Path} {result : PassResult}
    (h : (Pass.ofFiles (.standard o.strict o.reportEmpty)
      (loadedFiles disk parse paths)).result? = some result) :
    analyse disk parse display o paths = match stored disk o result.artifacts with
      | (after, written, none) => ⟨ending after display o result, after,
          analysisLog disk parse o paths ++ Disk.writeLog written ++ Pass.finalLog result⟩
      | (after, written, some e) => ⟨.failed (.disk e), after,
          analysisLog disk parse o paths ++ Disk.writeLog written⟩ := by
  rw [loadedFiles] at h
  simp only [analyse, h, stored, analysisLog, loadedFiles]
  cases o.out with
  | none => simp only [Disk.writeLog, List.map_nil, List.append_nil]; rfl
  | some out => rfl

theorem ending_ne_disk (disk : Disk) (display : Display) (o : Options) (result : PassResult)
    (e : OsError) : ending disk display o result ≠ .failed (.disk e) := by
  rw [ending]
  cases display.printAll (report disk o result) <;> simp

theorem ending_eq_complete_iff (disk : Disk) (display : Display) (o : Options)
    (result : PassResult) :
    (∃ success lines, ending disk display o result = .complete success lines) ↔
      ∀ part ∈ report disk o result, display.Shows part := by
  rw [← Display.exists_printAll_iff, ending]
  cases display.printAll (report disk o result) with
  | error e => simp
  | ok lines => simp only [Outcome.complete.injEq, Except.ok.injEq, exists_and_left, exists_eq',
      and_true]

theorem Valid.run_eq_of_stored (h : Valid disk o) (display : Display) {paths : List Path}
    {said : List Log.Record} (hpaths : targetFiles disk o.target = (.ok paths, said))
    {result : PassResult}
    (hresult : (Pass.ofFiles (.standard o.strict o.reportEmpty)
      (loadedFiles disk parse paths)).result? = some result)
    {after : Disk} {written : List Path}
    (hstored : stored disk o result.artifacts = (after, written, none)) :
    run disk parse display o = ⟨ending after display o result, after,
      said ++ (analysisLog disk parse o paths ++ Disk.writeLog written ++
        Pass.finalLog result)⟩ := by
  obtain ⟨paths', said', hpaths', hrun⟩ := h.run_eq parse display
  obtain ⟨hsame, rfl⟩ := Prod.mk.inj (hpaths'.symm.trans hpaths)
  obtain rfl := Except.ok.inj hsame
  rw [hrun, analyse_eq hresult, hstored]

/-- A run on one source that stores nothing ends with the result of the pass over it. -/
theorem Valid.outcome_of_file (h : Valid disk o) (parse : Parser) (display : Display)
    {bytes : Text.Bytes} (hentry : disk.entry o.target = .ok (.file bytes))
    (hsource : Search.isSource o.target = true) (hout : o.out = none) : ∃ result,
      (Pass.ofFiles (.standard o.strict o.reportEmpty) [.ofBytes parse o.target bytes]).result =
        .ok result ∧ run disk parse display o = ⟨ending disk display o result, disk,
          (run disk parse display o).log⟩ := by
  obtain ⟨result, hresult, hok, -⟩ := Pass.exists_result? (.standard o.strict o.reportEmpty)
    [.ofBytes parse o.target bytes]
  rw [← loadedFiles_of_entry parse hentry] at hresult
  have hstored : stored disk o result.artifacts = (disk, [], none) := by rw [stored, hout]
  exact ⟨result, hok, by
    rw [h.run_eq_of_stored display (targetFiles_of_source hentry hsource) hresult hstored]⟩

/-- **A run that does not fail to store its sources** has a result, stores its sources and shows
it. -/
theorem Valid.run_completes (h : Valid disk o)
    (hdisk : ∀ e, (run disk parse display o).outcome ≠ .failed (.disk e)) :
    ∃ paths said result written, targetFiles disk o.target = (.ok paths, said) ∧
      (Pass.ofFiles (.standard o.strict o.reportEmpty)
        (loadedFiles disk parse paths)).result? = some result ∧
      stored disk o result.artifacts = ((run disk parse display o).disk, written, none) ∧
      run disk parse display o = ⟨ending (run disk parse display o).disk display o result,
        (run disk parse display o).disk, said ++ (analysisLog disk parse o paths ++
          Disk.writeLog written ++ Pass.finalLog result)⟩ := by
  obtain ⟨paths, said, hpaths, hrun⟩ := h.run_eq parse display
  obtain ⟨result, hresult, -⟩ := Pass.exists_result? (.standard o.strict o.reportEmpty)
    (loadedFiles disk parse paths)
  rcases hstored : stored disk o result.artifacts with ⟨after, written, _ | e⟩
  · have hafter := h.run_eq_of_stored display hpaths hresult hstored
    refine ⟨paths, said, result, written, hpaths, hresult, ?_, ?_⟩
    · rw [hstored, hafter]
    · rw [hafter]
  · rw [analyse_eq hresult, hstored] at hrun
    exact absurd (by rw [hrun]) (hdisk e)

end Command

end Disposal
