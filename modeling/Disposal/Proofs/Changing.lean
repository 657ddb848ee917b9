import Disposal.Disk.Write
import Disposal.Proofs.Listing

/-!
# Changes to a disk

A run makes directories and writes generated sources.  A search is not after these, so what it finds
stays the same, unless the path of something new is too long.

* `Disk.Adds` is the one kind of change that a run makes to a disk: an empty directory under a free
  name, or a generated source under a name that is free or that of a file;
* `Disk.Preserves` is what is left as it is by such changes; `Disk.Preserves.read_eq`: the files
  that a search finds are, and `Disk.Preserves.find_eq`: it finds the same ones if all paths can be
  used.
-/

namespace Disposal

namespace Disk

variable {disk after : Disk} {parent place : List String} {name : String} {e : Entry}
  {es : Directory}

/-- A change that a run makes to a disk: it puts an empty directory under a free name of a
directory, or a generated source under a name that is free or that of a file. -/
inductive Adds (disk : Disk) (parent : List String) (name : String) : Entry → Prop where
  | directory {es : Directory} (here : disk.entryAt? parent = some (.directory es))
      (free : es.lookup name = none) : Adds disk parent name (.directory [])
  | file {es : Directory} (here : disk.entryAt? parent = some (.directory es))
      (old : ∀ e, es.lookup name = some e → ∃ bytes, e = .file bytes)
      (generated : Search.isGenerated ⟨.relative, [name]⟩ = true) (bytes : Text.Bytes) :
      Adds disk parent name (.file bytes)

/-- What changes to a disk leave as it is: what stands somewhere, and what a search finds there. -/
structure Preserves (disk after : Disk) : Prop extends Grows disk after where
  tree : after.IsTree
  /-- Files are kept as they are, generated sources apart. -/
  bytes : ∀ {place name bytes}, disk.entryAt? (place ++ [name]) = some (.file bytes) →
    Search.isGenerated ⟨.relative, [name]⟩ = false →
    after.entryAt? (place ++ [name]) = some (.file bytes)
  /-- Only generated sources are new. -/
  old : ∀ {place name bytes}, after.entryAt? (place ++ [name]) = some (.file bytes) →
    Search.isGenerated ⟨.relative, [name]⟩ = false →
    disk.entryAt? (place ++ [name]) = some (.file bytes)

namespace Preserves

theorem refl (h : disk.IsTree) : Preserves disk disk where
  toGrows := .refl disk
  tree := h
  bytes hfile _ := hfile
  old hfile _ := hfile

theorem trans {last : Disk} (h : Preserves disk after) (h' : Preserves after last) :
    Preserves disk last where
  toGrows := h.toGrows.trans h'.toGrows
  tree := h'.tree
  bytes hfile hname := h'.bytes (h.bytes hfile hname) hname
  old hfile hname := h.old (h'.old hfile hname) hname

theorem isWanted_iff (h : Preserves disk after) {es es' : Directory}
    (hes : disk.entryAt? place = some (.directory es))
    (hes' : after.entryAt? place = some (.directory es')) (names : List String) (p : Path) :
    Search.IsWanted {} es' names p ↔ Search.IsWanted {} es names p := by
  have hfile : Search.isGenerated ⟨.relative, [names.getLastD ""]⟩ = false → ∀ bytes,
      ((Entry.directory es').below? names = some (.file bytes) ↔
        (Entry.directory es).below? names = some (.file bytes)) := by
    intro hgenerated bytes
    have hbelow : after.entryAt? (place ++ names) = (Entry.directory es').below? names ∧
        disk.entryAt? (place ++ names) = (Entry.directory es).below? names := by
      rw [entryAt?_append, entryAt?_append, hes, hes']
      exact ⟨rfl, rfl⟩
    rw [← hbelow.1, ← hbelow.2]
    obtain rfl | ⟨above, name, rfl⟩ := List.eq_nil_or_concat' names
    · simp [hes, hes']
    · rw [List.getLastD_concat] at hgenerated
      rw [← List.append_assoc]
      exact ⟨fun hnew => h.old hnew hgenerated, fun hold => h.bytes hold hgenerated⟩
  have hgenerated : (({} : Search.Query).includeGenerated = true ∨
      ∀ ending ∈ Search.generatedSuffixes,
        ¬ ending.toList <:+ (Search.lower (names.getLastD "")).toList) →
      Search.isGenerated ⟨.relative, [names.getLastD ""]⟩ = false := fun hwritten =>
    Search.isGenerated_eq_false.2 (hwritten.resolve_left Bool.false_ne_true)
  constructor
  · rintro ⟨⟨bytes, hbelow⟩, hdirectories, hsource, hwritten, haccepted⟩
    exact ⟨⟨bytes, (hfile (hgenerated hwritten) bytes).1 hbelow⟩, hdirectories, hsource, hwritten,
      haccepted⟩
  · rintro ⟨⟨bytes, hbelow⟩, hdirectories, hsource, hwritten, haccepted⟩
    exact ⟨⟨bytes, (hfile (hgenerated hwritten) bytes).2 hbelow⟩, hdirectories, hsource, hwritten,
      haccepted⟩

/-- Paths that can be used below a directory afterwards could be used before. -/
theorem usable (h : Preserves disk after) (htree : disk.IsTree) {q : Search.Query} {shown : Path}
    {es es' : Directory} (hes : disk.entryAt? place = some (.directory es))
    (hes' : after.entryAt? place = some (.directory es'))
    (husable : Search.Usable q shown (.directory es')) : Search.Usable q shown (.directory es) := by
  intro names name e he hnames
  have hplace : disk.entryAt? (place ++ (names ++ [name])) = some e := by
    rw [entryAt?_append, hes, Option.bind_some, he]
  obtain ⟨e', he'⟩ : ∃ e', after.entryAt? (place ++ (names ++ [name])) = some e' := by
    cases Entry.IsTree.of_below htree hplace with
    | file bytes =>
      obtain ⟨bytes', hbytes⟩ := h.file hplace
      exact ⟨_, hbytes⟩
    | directory =>
      obtain ⟨sub, hsub⟩ := h.directory hplace
      exact ⟨_, hsub⟩
  rw [entryAt?_append, hes', Option.bind_some] at he'
  exact husable names name e' he' hnames

/-- **What a search finds** below a directory does not change if all paths can be used. -/
theorem find_eq (h : Preserves disk after) (htree : disk.IsTree) {root : Path}
    (hreal : disk.realPath root = root) {es es' : Directory}
    (hroot : disk.entry root = .ok (.directory es))
    (hroot' : after.entry root = .ok (.directory es'))
    (husable : Search.Usable {} root (.directory es')) :
    Search.find after {} root = Search.find disk {} root := by
  obtain ⟨place, hplace, hes⟩ := entry_eq_ok.1 hroot
  obtain ⟨place', hplace', hes'⟩ := entry_eq_ok.1 hroot'
  have hsame := h.toGrows.resolve htree h.tree hplace (.inl rfl)
  obtain rfl : place = place' := by
    rw [hsame] at hplace'
    cases hplace'
    rfl
  refine Search.find_congr rfl htree.distinctNames h.tree.distinctNames
    (h.toGrows.realPath htree h.tree root) (hreal.symm ▸ hroot) (hreal.symm ▸ hroot') ?_
    (hreal.symm ▸ husable) (h.isWanted_iff hes hes')
  rw [hreal]
  exact h.usable htree hes hes' husable

theorem read_congr {p : Path} (hresolve : after.resolve p = disk.resolve p)
    (hplace : ∀ place, disk.resolve p = .ok (.present place) →
      after.entryAt? place = disk.entryAt? place) : after.read p = disk.read p := by
  rw [read, read, entry, entry, hresolve]
  cases hp : disk.resolve p with
  | error cause => rfl
  | ok t =>
    cases t with
    | absent parent name => rfl
    | present place =>
      simp only
      rw [hplace place hp]

theorem read_eq (h : Preserves disk after) (htree : disk.IsTree) {root p : Path}
    {paths : List Path} (hfind : Search.find disk {} root = .ok paths) (hp : p ∈ paths) :
    after.read p = disk.read p := by
  obtain ⟨es, hentry, rfl⟩ := (Search.find_eq_ok (q := {}) rfl).1 hfind
  obtain ⟨place, hplace, hes⟩ := entry_eq_ok.1 hentry
  obtain ⟨names, -, rfl, ⟨bytes, hbelow⟩, -, hwants, -⟩ := (Search.mem_below_iff rfl
    (Entry.IsTree.of_below htree hes).distinctNames).1 (List.mem_mergeSort.1 hp)
  have hfile : disk.entryAt? (place ++ names) = some (.file bytes) := by
    rw [entryAt?_append, hes, Option.bind_some, hbelow]
  -- the file is not a generated source, so it is kept
  have hafter : after.entryAt? (place ++ names) = some (.file bytes) := by
    obtain rfl | ⟨above, name, rfl⟩ := List.eq_nil_or_concat' names
    · cases hbelow
    · have hname : Search.isGenerated ⟨.relative, [name]⟩ = false := by
        rw [Search.Query.wants, Bool.and_eq_true, Bool.and_eq_true] at hwants
        have hnot := hwants.1.2
        rw [Bool.false_or, Bool.not_eq_true', Search.isGenerated] at hnot
        rw [Search.isGenerated, ← hnot]
        simp [Path.name]
      rw [← List.append_assoc] at hfile ⊢
      exact h.bytes hfile hname
  have hafterplace := h.toGrows.resolve htree h.tree hplace (.inl rfl)
  have hresolve := htree.resolve_below hplace hfile
  refine read_congr ((h.tree.resolve_below hafterplace hafter).trans hresolve.symm) ?_
  intro place' hplace'
  obtain rfl : place' = place ++ names := by
    rw [hresolve] at hplace'
    split at hplace'
    · cases hplace'
    · split_ifs at hplace'
      cases hplace'
      rfl
  rw [hafter, hfile]

end Preserves

namespace Adds

/-- Where an entry is put there is a directory, with at most a file under its name. -/
theorem here (h : disk.Adds parent name e) : ∃ es, disk.entryAt? parent = some (.directory es) ∧
    ∀ old, es.lookup name = some old → ∃ old' bytes, old = .file old' ∧ e = .file bytes := by
  cases h with
  | @directory es here free =>
    refine ⟨es, here, fun old hold => ?_⟩
    rw [free] at hold
    cases hold
  | @file es here old generated bytes =>
    refine ⟨es, here, fun e he => ?_⟩
    obtain ⟨old', rfl⟩ := old e he
    exact ⟨old', bytes, rfl, rfl⟩

theorem isTree (h : disk.Adds parent name e) : e.IsTree := by
  cases h with
  | directory here free => exact .directory List.nodup_nil List.not_mem_nil (by simp)
  | file here old generated bytes => exact .file bytes

theorem entryAt?_eq_or (h : disk.Adds parent name e) {x : Entry}
    (hx : disk.entryAt? place = some x) :
    (disk.put parent name e).entryAt? place = some x ∨
      (∃ below, parent = place ++ below) ∨
      place = parent ++ [name] ∧ ∃ bytes, x = .file bytes := by
  rcases entryAt?_put_cases disk parent name e place with hup | ⟨below, rfl⟩ | hsame
  · exact .inr (.inl hup)
  · obtain ⟨es, hes, hfile⟩ := h.here
    rw [entryAt?_append, hes, Option.bind_some, Entry.below?_directory,
      Option.bind_eq_some_iff] at hx
    obtain ⟨old, hold, hx⟩ := hx
    obtain ⟨bytes, _, rfl, -⟩ := hfile old hold
    cases below with
    | nil =>
      rw [Entry.below?_nil, Option.some.injEq] at hx
      exact .inr (.inr ⟨rfl, bytes, hx.symm⟩)
    | cons n below => simp at hx
  · exact .inl (hsame.trans hx)

theorem file_eq (h : disk.Adds parent name e) {bytes : Text.Bytes}
    (hfile : disk.entryAt? place = some (.file bytes)) (hne : place ≠ parent ++ [name]) :
    (disk.put parent name e).entryAt? place = some (.file bytes) := by
  rcases h.entryAt?_eq_or hfile with hsame | ⟨below, rfl⟩ | ⟨rfl, -⟩
  · exact hsame
  · obtain ⟨es, hes, -⟩ := h.here
    rw [entryAt?_append, hfile, Option.bind_some] at hes
    cases below <;> simp at hes
  · exact absurd rfl hne

theorem exists_directory (h : disk.Adds parent name e) {es : Directory}
    (hes : disk.entryAt? place = some (.directory es)) :
    ∃ es', (disk.put parent name e).entryAt? place = some (.directory es') := by
  rcases h.entryAt?_eq_or hes with hsame | ⟨below, rfl⟩ | ⟨-, bytes, hfile⟩
  · exact ⟨es, hsame⟩
  · obtain ⟨sub, hsub, -⟩ := h.here
    have hparent := entryAt?_put_parent hsub name e
    cases below with
    | nil =>
      rw [List.append_nil] at hparent ⊢
      exact ⟨_, hparent⟩
    | cons n below => exact exists_directory_of_append hparent
  · cases hfile

/-- A new file is a generated source. -/
theorem file_old (h : disk.Adds parent name e) {other : String} {bytes : Text.Bytes}
    (hfile : (disk.put parent name e).entryAt? (place ++ [other]) = some (.file bytes))
    (hother : Search.isGenerated ⟨.relative, [other]⟩ = false) :
    disk.entryAt? (place ++ [other]) = some (.file bytes) := by
  obtain ⟨es, hes, -⟩ := h.here
  rcases entryAt?_put_cases disk parent name e (place ++ [other]) with
    ⟨below, rfl⟩ | ⟨below, hplace⟩ | hsame
  · have hparent := entryAt?_put_parent hes name e
    rw [entryAt?_append, hfile, Option.bind_some] at hparent
    cases below <;> simp at hparent
  · rw [hplace, List.append_cons, entryAt?_append, entryAt?_put_self hes, Option.bind_some] at hfile
    cases h with
    | directory here free => cases below <;> simp at hfile
    | file here old generated written =>
      cases below with
      | nil =>
        obtain rfl := List.singleton_inj.1 (List.append_inj' hplace rfl).2
        rw [generated] at hother
        cases hother
      | cons n below => simp at hfile
  · rw [← hsame, hfile]

/-- **One change** to a disk without links. -/
theorem preserves (htree : disk.IsTree) (h : disk.Adds parent name e) (hname : name ≠ "..") :
    Preserves disk (disk.put parent name e) := by
  refine ⟨⟨rfl, h.exists_directory, fun {place bytes} hbytes => ?_⟩, htree.put hname h.isTree,
    fun {place other bytes} hbytes hother => h.file_eq hbytes fun hplace => ?_, h.file_old⟩
  · by_cases hplace : place = parent ++ [name]
    · obtain ⟨es, hes, hold⟩ := h.here
      rw [hplace, entryAt?_child hes] at hbytes
      obtain ⟨-, bytes', -, rfl⟩ := hold _ hbytes
      exact ⟨bytes', hplace ▸ entryAt?_put_self hes name _⟩
    · exact ⟨bytes, h.file_eq hbytes hplace⟩
  · obtain ⟨rfl, hnames⟩ := List.append_inj' hplace rfl
    obtain rfl := List.singleton_inj.1 hnames
    cases h with
    | directory here free =>
      rw [entryAt?_child here, free] at hbytes
      cases hbytes
    | file here old generated bytes =>
      rw [generated] at hother
      cases hother

end Adds

end Disk

end Disposal
