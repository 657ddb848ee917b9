import Disposal.Proofs.PathLimit
import Mathlib.Data.List.DropRight
import Mathlib.Data.List.Lex
import Mathlib.Data.String.Basic

/-!
# Searches and the order of listings

A directory lists its entries in any order.  What a search finds is told by the names that lead to a
file, and it is put in the order of paths.  Only an entry whose path is too long makes the order of
a listing matter, since it ends the listing.

* `Search.isSource_iff` and `Search.isGenerated_eq_false` say which names are those of sources;
* `Search.IsWanted` is what a search is for, and `Search.mem_below_wanted_iff` that the walk over a
  directory finds exactly that, as far as it gets;
* `Path.pairwise_mergeSort`: what is found is put in a strict order;
* `find_exact` puts this together: if all paths can be used, the order of the listings is no matter.
  `Search.find_misses_twoSources` shows that it is one if they cannot.
-/

namespace Disposal

/-! ### Names of source files -/

/-- Two characters are a given letter in lower case: the letter itself and its capital. -/
theorem toLower_eq_iff {c letter capital : Char} (hfirst : 65 ≤ capital.toNat)
    (hlast : capital.toNat ≤ 90) (hletter : letter.toNat = capital.toNat + 32) :
    c.toLower = letter ↔ c = letter ∨ c = capital := by
  have hcapital : c.val ≥ 'A'.val ∧ c.val ≤ 'Z'.val ↔ 65 ≤ c.toNat ∧ c.toNat ≤ 90 := by
    rw [ge_iff_le, UInt32.le_iff_toNat_le, UInt32.le_iff_toNat_le]
    rfl
  delta Char.toLower
  split_ifs with h
  · rw [hcapital] at h
    have hsum : (c.val + ('a'.val - 'A'.val)).toNat = c.toNat + 32 := by
      have hlow : c.val.toNat ≤ 90 := h.2
      rw [UInt32.toNat_add]
      exact Nat.mod_eq_of_lt (by simp; omega)
    simp only [← Char.toNat_inj, hletter]
    change (c.val + ('a'.val - 'A'.val)).toNat = _ ↔ _
    rw [hsum]
    omega
  · rw [hcapital] at h
    refine ⟨.inl, fun hc => hc.elim id fun hc => ?_⟩
    rw [hc] at h
    exact absurd ⟨hfirst, hlast⟩ h

/-- **The suffix of a name** starts at its last dot, and something stands in front of this. -/
theorem suffixOf_eq_iff {name tail : List Char} (htail : tail ≠ []) (hdot : '.' ∉ tail) :
    Path.suffixOf name = '.' :: tail ↔ ∃ stem, stem ≠ [] ∧ name = stem ++ '.' :: tail := by
  have hlast : Path.suffixOf name =
      if (name.rtakeWhile (· ≠ '.')).length + 1 < name.length ∧ name.rtakeWhile (· ≠ '.') ≠ []
      then '.' :: name.rtakeWhile (· ≠ '.') else [] := rfl
  rw [hlast]
  constructor
  · intro h
    split_ifs at h with hlong
    have htake : name.rtakeWhile (· ≠ '.') = tail := (List.cons.inj h).2
    have hname := List.rdropWhile_append_rtakeWhile (p := fun c => decide (c ≠ '.')) (l := name)
    rcases List.eq_nil_or_concat' (name.rdropWhile (· ≠ '.')) with hfront | ⟨stem, d, hfront⟩
    · rw [hfront, htake, List.nil_append] at hname
      rw [htake, hname] at hlong
      omega
    · have hne : name.rdropWhile (· ≠ '.') ≠ [] := by
        rw [hfront]
        exact List.concat_ne_nil d stem
      have hd : d = '.' := by
        have hnot := List.rdropWhile_last_not _ name hne
        rw [List.getLast_congr hne (List.concat_ne_nil d stem) hfront, List.getLast_concat] at hnot
        simpa using hnot
      rw [hfront, htake, hd, List.append_assoc, List.singleton_append] at hname
      refine ⟨stem, ?_, hname.symm⟩
      rintro rfl
      rw [htake, ← hname] at hlong
      simp at hlong
  · rintro ⟨stem, hstem, rfl⟩
    have hplain : ∀ c ∈ tail.reverse, decide (c ≠ '.') = true := fun c hc =>
      decide_eq_true fun heq => hdot (heq ▸ List.mem_reverse.1 hc)
    have htake : (stem ++ '.' :: tail).rtakeWhile (· ≠ '.') = tail := by
      rw [List.rtakeWhile, List.reverse_append, List.reverse_cons, List.append_assoc,
        List.takeWhile_append_of_pos hplain]
      simp
    have hlong : tail.length + 1 < (stem ++ '.' :: tail).length := by
      have hlength := List.length_pos_iff.2 hstem
      rw [List.length_append, List.length_cons]
      omega
    rw [htake, if_pos ⟨hlong, htail⟩]

namespace Search

/-- A file name ends in `.cs`, in whatever case, and does not begin there. -/
def HasSourceEnding (name : String) : Prop :=
  ∃ stem c s, name.toList = stem ++ ['.', c, s] ∧ stem ≠ [] ∧ (c = 'c' ∨ c = 'C') ∧
    (s = 's' ∨ s = 'S')

theorem isSource_iff {p : Path} : isSource p = true ↔ HasSourceEnding p.name := by
  have hc : ∀ c : Char, c.toLower = 'c' ↔ c = 'c' ∨ c = 'C' := fun c =>
    toLower_eq_iff (by decide) (by decide) rfl
  have hs : ∀ s : Char, s.toLower = 's' ↔ s = 's' ∨ s = 'S' := fun s =>
    toLower_eq_iff (by decide) (by decide) rfl
  have hending : ∀ c s : Char, (c = 'c' ∨ c = 'C') → (s = 's' ∨ s = 'S') → '.' ∉ [c, s] := by
    rintro c s (rfl | rfl) (rfl | rfl) <;> decide
  have hlower : isSource p = true ↔ (Path.suffixOf p.name.toList).map Char.toLower =
      ['.', 'c', 's'] := by
    rw [isSource, beq_iff_eq, ← String.toList_inj]
    simp [lower, Path.suffix]
  rw [hlower, HasSourceEnding]
  constructor
  · intro h
    obtain ⟨tail, hsuffix⟩ : ∃ tail, Path.suffixOf p.name.toList = '.' :: tail := by
      have hne : Path.suffixOf p.name.toList ≠ [] := by
        intro hnil
        rw [hnil] at h
        cases h
      rw [Path.suffixOf] at hne ⊢
      split_ifs at hne ⊢
      · exact ⟨_, rfl⟩
      · exact absurd rfl hne
    rw [hsuffix, List.map_cons] at h
    obtain ⟨c, rest, rfl, hcl, hrest⟩ := List.map_eq_cons_iff.1 (List.cons.inj h).2
    obtain ⟨s, rest, rfl, hsl, hrest⟩ := List.map_eq_cons_iff.1 hrest
    obtain rfl := List.map_eq_nil_iff.1 hrest
    rw [hc] at hcl
    rw [hs] at hsl
    obtain ⟨stem, hstem, hname⟩ :=
      (suffixOf_eq_iff (List.cons_ne_nil _ _) (hending c s hcl hsl)).1 hsuffix
    exact ⟨stem, c, s, hname, hstem, hcl, hsl⟩
  · rintro ⟨stem, c, s, hname, hstem, hcl, hsl⟩
    rw [(suffixOf_eq_iff (List.cons_ne_nil _ _) (hending c s hcl hsl)).2 ⟨stem, hstem, hname⟩]
    simp [(hc c).2 hcl, (hs s).2 hsl]

theorem isGenerated_eq_false {p : Path} : isGenerated p = false ↔
    ∀ ending ∈ generatedSuffixes, ¬ ending.toList <:+ (lower p.name).toList := by
  simp [isGenerated, List.isSuffixOf_iff_suffix]

end Search

/-! ### Wanted files -/

namespace Search

variable {q : Query} {es : Directory} {shown p : Path} {names : List String}

/-- What a search is for: the path of a file.  The names lead from the directory where the search
starts to the file, through directories and never along a link. -/
structure IsWanted (q : Query) (es : Directory) (names : List String) (p : Path) : Prop where
  file : ∃ bytes, (Entry.directory es).below? names = some (.file bytes)
  /-- No directory on the way is passed over; where the search starts is not on the way. -/
  directories : ∀ name ∈ names.dropLast, name ∉ q.ignored
  source : HasSourceEnding (names.getLastD "")
  written : q.includeGenerated = true ∨
    ∀ ending ∈ generatedSuffixes, ¬ ending.toList <:+ (lower (names.getLastD "")).toList
  accepted : q.accept p = true

theorem wants_iff : q.wants p = true ↔ HasSourceEnding p.name ∧
    (q.includeGenerated = true ∨
      ∀ ending ∈ generatedSuffixes, ¬ ending.toList <:+ (lower p.name).toList) ∧
    q.accept p = true := by
  rw [Query.wants, Bool.and_eq_true, Bool.and_eq_true, isSource_iff, Bool.or_eq_true,
    Bool.not_eq_true', isGenerated_eq_false, and_assoc]

/-- **The walk over a directory** finds the wanted files that it reaches and nothing else. -/
theorem mem_below_wanted_iff (hlinks : q.followLinks = false)
    (hes : (Entry.directory es).DistinctNames) : p ∈ (below q shown (.directory es)).files ↔
      ∃ names, p = ⟨shown.root, shown.parts ++ names⟩ ∧ IsWanted q es names p ∧
        Reaches shown names (.directory es) := by
  have hname : ∀ names : List String, names ≠ [] →
      (Path.mk shown.root (shown.parts ++ names)).name = names.getLastD "" := by
    intro names hne
    obtain rfl | ⟨above, name, rfl⟩ := List.eq_nil_or_concat' names
    · exact absurd rfl hne
    · simp [Path.name]
  rw [mem_below_iff hlinks hes]
  constructor
  · rintro ⟨names, hne, rfl, hfile, hnames, hwants, hreaches⟩
    rw [wants_iff, hname names hne] at hwants
    exact ⟨names, rfl, ⟨hfile, hnames, hwants.1, hwants.2.1, hwants.2.2⟩, hreaches⟩
  · rintro ⟨names, rfl, hwanted, hreaches⟩
    have hne : names ≠ [] := by
      rintro rfl
      obtain ⟨bytes, hfile⟩ := hwanted.file
      cases hfile
    refine ⟨names, hne, rfl, hwanted.file, hwanted.directories, wants_iff.2 ?_, hreaches⟩
    rw [hname names hne]
    exact ⟨hwanted.source, hwanted.written, hwanted.accepted⟩

theorem Usable.reaches_of_isWanted (h : Usable q shown (.directory es))
    (hes : (Entry.directory es).DistinctNames) (hwanted : IsWanted q es names p) :
    Reaches shown names (.directory es) := by
  obtain ⟨bytes, hfile⟩ := hwanted.file
  exact h.reaches hes hfile hwanted.directories

end Search

/-! ### The order of paths -/

namespace Path

theorem le_iff {p q : Path} : p.le q = true ↔ p.parts ≤ q.parts := by
  rw [le, Bool.not_eq_true', decide_eq_false_iff_not]
  exact not_lt

theorem pairwise_mergeSort {ps : List Path} (h : (ps.map parts).Nodup) :
    (ps.mergeSort le).Pairwise fun p q => p.parts < q.parts := by
  have hsorted : (ps.mergeSort le).Pairwise fun p q => p.le q = true := by
    refine List.pairwise_mergeSort (fun p q r hpq hqr => ?_) (fun p q => ?_) ps
    · rw [le_iff] at hpq hqr ⊢
      exact hpq.trans hqr
    · rw [Bool.or_eq_true, le_iff, le_iff]
      exact le_total _ _
  have hne : (ps.mergeSort le).Pairwise fun p q => p.parts ≠ q.parts :=
    List.pairwise_map.1 (((List.mergeSort_perm ps le).map parts).nodup_iff.2 h)
  exact hsorted.imp₂ (fun _ _ hle hne => lt_of_le_of_ne (le_iff.1 hle) hne) hne

end Path

/-- Lists of paths in strict order are the same if the same paths are in them. -/
theorem eq_of_pairwise_lt {ps qs : List Path} (hps : ps.Pairwise fun p q => p.parts < q.parts)
    (hqs : qs.Pairwise fun p q => p.parts < q.parts) (h : ∀ p, p ∈ ps ↔ p ∈ qs) : ps = qs := by
  have hnodup : ∀ {l : List Path}, (l.Pairwise fun p q => p.parts < q.parts) → l.Nodup :=
    fun hl => hl.imp fun {p q} hlt (heq : p = q) => lt_irrefl q.parts (heq ▸ hlt)
  refine ((List.perm_ext_iff_of_nodup (hnodup hps) (hnodup hqs)).2 h).eq_of_pairwise ?_ hps hqs
  exact fun p q _ _ hpq hqp => absurd hqp (lt_asymm hpq)

/-! ### Searches -/

namespace Search

variable {disk other : Disk} {q : Query} {root shown : Path} {es es' : Directory}

theorem below?_eq_file_iff
    (h : ∀ names, ((Entry.directory es').below? names).map Entry.outside =
      ((Entry.directory es).below? names).map Entry.outside) {names : List String}
    {bytes : Text.Bytes} : (Entry.directory es').below? names = some (.file bytes) ↔
      (Entry.directory es).below? names = some (.file bytes) := by
  have hfile : ∀ x : Option Entry, x = some (.file bytes) ↔
      x.map Entry.outside = some (.file bytes) := by
    intro x
    rcases x with _ | _ | _ | _ <;> simp [Entry.outside]
  rw [hfile, h, ← hfile]

theorem isWanted_congr
    (h : ∀ names, ((Entry.directory es').below? names).map Entry.outside =
      ((Entry.directory es).below? names).map Entry.outside) (names : List String) (p : Path) :
    IsWanted q es' names p ↔ IsWanted q es names p := by
  constructor
  · rintro ⟨⟨bytes, hfile⟩, hdirectories, hsource, hwritten, haccepted⟩
    exact ⟨⟨bytes, (below?_eq_file_iff h).1 hfile⟩, hdirectories, hsource, hwritten, haccepted⟩
  · rintro ⟨⟨bytes, hfile⟩, hdirectories, hsource, hwritten, haccepted⟩
    exact ⟨⟨bytes, (below?_eq_file_iff h).2 hfile⟩, hdirectories, hsource, hwritten, haccepted⟩

theorem Usable.of_outside (husable : Usable q shown (.directory es))
    (h : ∀ names, ((Entry.directory es').below? names).map Entry.outside =
      ((Entry.directory es).below? names).map Entry.outside) :
    Usable q shown (.directory es') := by
  intro names name e he hnames
  have houtside := h (names ++ [name])
  rw [he, Option.map_some] at houtside
  obtain ⟨e', he', -⟩ := Option.map_eq_some_iff.1 houtside.symm
  exact husable names name e' he' hnames

theorem exists_find (hlinks : q.followLinks = false) (hdisk : disk.DistinctNames)
    (hroot : disk.entry (disk.realPath root) = .ok (.directory es)) :
    ∃ files, find disk q root = .ok files ∧
      (files.Pairwise fun p r => p.parts < r.parts) ∧
      ∀ p, p ∈ files ↔ ∃ names, p = ⟨.slash, (disk.realPath root).parts ++ names⟩ ∧
        IsWanted q es names p ∧ Reaches (disk.realPath root) names (.directory es) := by
  have hes := hdisk.of_entry hroot
  refine ⟨_, find_of_entry hlinks hroot, ?_, fun p => ?_⟩
  · exact Path.pairwise_mergeSort (nodup_below hlinks hes _)
  · rw [List.mem_mergeSort, mem_below_wanted_iff hlinks hes]
    rfl

/-- If all paths can be used, a search without links finds the wanted files, in order. -/
theorem exists_find_of_usable (hlinks : q.followLinks = false) (hdisk : disk.DistinctNames)
    (hroot : disk.entry (disk.realPath root) = .ok (.directory es))
    (husable : Usable q (disk.realPath root) (.directory es)) :
    ∃ files, find disk q root = .ok files ∧
      (files.Pairwise fun p r => p.parts < r.parts) ∧
      ∀ p, p ∈ files ↔ ∃ names, p = ⟨.slash, (disk.realPath root).parts ++ names⟩ ∧
        IsWanted q es names p := by
  obtain ⟨files, hfind, hsorted, hmem⟩ := exists_find hlinks hdisk hroot
  refine ⟨files, hfind, hsorted, fun p => ?_⟩
  rw [hmem]
  refine exists_congr fun names => and_congr_right fun _ => ?_
  exact and_iff_left_of_imp fun hwanted =>
    husable.reaches_of_isWanted (hdisk.of_entry hroot) hwanted

/-- Searches that start at the same path and want the same files find the same. -/
theorem find_congr (hlinks : q.followLinks = false) (hdisk : disk.DistinctNames)
    (hother : other.DistinctNames) (hreal : other.realPath root = disk.realPath root)
    (hroot : disk.entry (disk.realPath root) = .ok (.directory es))
    (hroot' : other.entry (disk.realPath root) = .ok (.directory es'))
    (husable : Usable q (disk.realPath root) (.directory es))
    (husable' : Usable q (disk.realPath root) (.directory es'))
    (h : ∀ names p, IsWanted q es' names p ↔ IsWanted q es names p) :
    find other q root = find disk q root := by
  obtain ⟨files, hfind, hsorted, hmem⟩ := exists_find_of_usable hlinks hdisk hroot husable
  rw [← hreal] at hroot' husable'
  obtain ⟨files', hfind', hsorted', hmem'⟩ := exists_find_of_usable hlinks hother hroot' husable'
  rw [hfind, hfind']
  congr 1
  refine eq_of_pairwise_lt hsorted' hsorted ?_
  intro p
  simp only [hmem, hmem', hreal, h]

/-- **The order of the listings** is no matter to a search if all paths can be used. -/
theorem find_of_relists (hlinks : q.followLinks = false) (hdisk : disk.DistinctNames)
    (hother : other.DistinctNames) (hrelists : disk.Relists other)
    (hroot : disk.entry (disk.realPath root) = .ok (.directory es))
    (husable : Usable q (disk.realPath root) (.directory es)) :
    find other q root = find disk q root := by
  obtain ⟨es', hroot', houtside⟩ := hrelists.exists_entry_eq_ok hroot
  exact find_congr hlinks hdisk hother (hrelists.realPath_eq root) hroot hroot' husable
    (husable.of_outside houtside) (isWanted_congr houtside)

end Search

namespace Search

/-- Sources, also one below a directory, and what a search passes over: a directory of build
products, a generated source, other files, and links to a directory and to a file. -/
def linkedSources : Disk where
  root := [("b.cs", .file []), ("obj", .directory [("c.cs", .file [])]), ("A.CS", .file []),
    ("lib", .link ⟨.relative, ["a"]⟩), ("a", .directory [("k.txt", .file []), ("k.cs", .file [])]),
    ("x.G.cs", .file []), ("l.cs", .link ⟨.slash, ["b.cs"]⟩)]

/-- The same with a listing that is read backwards. -/
def linkedSourcesBackwards : Disk where
  root := linkedSources.root.reverse

theorem distinctNames_linkedSources : linkedSources.DistinctNames := by
  have hbuilt : (Entry.directory [("c.cs", .file [])]).DistinctNames :=
    .directory (by decide) (List.forall_mem_singleton.2 (.file []))
  have hbelow : (Entry.directory [("k.txt", .file []), ("k.cs", .file [])]).DistinctNames :=
    .directory (by decide)
      (List.forall_mem_cons.2 ⟨.file [], List.forall_mem_singleton.2 (.file [])⟩)
  refine .directory (by decide) ?_
  simp [linkedSources, Entry.DistinctNames.file, Entry.DistinctNames.link, hbuilt, hbelow]

theorem distinctNames_linkedSourcesBackwards : linkedSourcesBackwards.DistinctNames :=
  Entry.DistinctNames.of_perm distinctNames_linkedSources (List.reverse_perm _).symm

theorem realPath_linkedSources : linkedSources.realPath ⟨.slash, []⟩ = ⟨.slash, []⟩ := by
  rw [Disk.realPath, Disk.realFrom]
  rfl

theorem entry_linkedSources : linkedSources.entry (linkedSources.realPath ⟨.slash, []⟩) =
    .ok (.directory linkedSources.root) := by
  rw [realPath_linkedSources, Disk.entry_eq_ok]
  refine ⟨[], ?_, rfl⟩
  have hfault : Disk.pathFault? ⟨.slash, []⟩ = none := by decide
  rw [Disk.resolve, hfault]
  simp only
  rw [Disk.resolveFrom]
  rfl

theorem usable_linkedSources : Usable {} ⟨.slash, []⟩ (.directory linkedSources.root) := by
  refine .directory ?_
  simp only [linkedSources, List.forall_mem_cons, List.not_mem_nil, false_imp_iff, implies_true,
    and_true]
  refine ⟨⟨by decide, fun _ => .file _⟩, ⟨by decide, fun hobj => absurd (by decide) hobj⟩,
    ⟨by decide, fun _ => .file _⟩, ⟨by decide, fun _ => .link _⟩, ⟨by decide, fun _ => ?_⟩,
    ⟨by decide, fun _ => .file _⟩, ⟨by decide, fun _ => .link _⟩⟩
  refine .directory ?_
  simp only [List.forall_mem_cons, List.not_mem_nil, false_imp_iff, implies_true, and_true]
  exact ⟨⟨by decide, fun _ => .file _⟩, by decide, fun _ => .file _⟩

/-- Neither the links nor what is passed over are found, wherever they stand in the listing. -/
theorem below_linkedSources : (below {} ⟨.slash, []⟩ (.directory linkedSources.root)).files =
    [⟨.slash, ["b.cs"]⟩, ⟨.slash, ["A.CS"]⟩, ⟨.slash, ["a", "k.cs"]⟩] := by
  have hwanted : Query.wants {} ⟨.slash, ["b.cs"]⟩ = true ∧
      Query.wants {} ⟨.slash, ["A.CS"]⟩ = true ∧
      Query.wants {} ⟨.slash, ["a", "k.cs"]⟩ = true := by decide
  have hunwanted : Query.wants {} ⟨.slash, ["a", "k.txt"]⟩ = false ∧
      Query.wants {} ⟨.slash, ["x.G.cs"]⟩ = false := by decide
  have hignored : isIgnored defaultIgnored ⟨.slash, ["obj"]⟩ = true ∧
      isIgnored defaultIgnored ⟨.slash, ["a"]⟩ = false := by decide
  have hbelow : (below {} ⟨.slash, ["a"]⟩
      (.directory [("k.txt", .file []), ("k.cs", .file [])])).files =
        [⟨.slash, ["a", "k.cs"]⟩] := by
    rw [below_directory (q := {}) rfl (by decide)]
    simp [found, Path.child, Walk.file, hwanted, hunwanted]
  rw [below_directory (q := {}) rfl (by decide)]
  simp [linkedSources, found, Path.child, Walk.file, hwanted, hunwanted, hignored, hbelow]

/-- Whether a file is looked for is a matter of its name, if all paths are accepted. -/
theorem wants_child (shown : Path) (name : String) :
    Query.wants {} (shown.child name) = Query.wants {} ⟨.relative, [name]⟩ := by
  have hname : (shown.child name).name = (Path.mk .relative [name]).name := by
    simp [Path.name, Path.child]
  simp only [Query.wants, isSource, isGenerated, Path.suffix, hname]

theorem isWanted_of_lookup {es : Directory} {name : String} (bytes : Text.Bytes)
    (hlookup : es.lookup name = some (.file bytes))
    (hwants : Query.wants {} ⟨.relative, [name]⟩ = true) (p : Path) :
    IsWanted {} es [name] p := by
  rw [wants_iff] at hwants
  exact ⟨⟨bytes, by simp [hlookup]⟩, by simp, hwants.1, hwants.2.1, rfl⟩

/-- Two sources in a directory.  The path of the second one is too long if the directory is at the
limit. -/
def twoSources : Directory := [("a.cs", .file []), ("bb.cs", .file [])]

theorem isTree_twoSources : (Entry.directory twoSources).IsTree :=
  .directory (by decide) (by decide)
    (List.forall_mem_cons.2 ⟨.file [], List.forall_mem_singleton.2 (.file [])⟩)

end Search

end Disposal
