import Disposal.Proofs.Relisting
import Disposal.Proofs.Searching
import Mathlib.Algebra.Ring.Nat

/-!
# Directories at the limit of a path

A path has at most 4095 bytes, but directories can stand one below the other as deep as one likes.
In a directory whose path has 4090 bytes, the paths of entries with short names can be used and
those of others cannot.

* `Path.utf8ByteSize_toString` is the size of a path;
* `Disk.Enterable` are names of directories that a path leads through;
* `Disk.AtLimit` are the names that lead to such a directory, `Disk.atLimit_limitNames` that there
  are some;
* `Disk.AtLimit.below_cons_of_long`: in such a directory a long name ends the listing.
-/

namespace Disposal

theorem Path.utf8ByteSize_toString {parts : List String} (h : parts ≠ []) :
    (Path.mk .slash parts).toString.utf8ByteSize =
      (parts.map fun name => name.utf8ByteSize + 1).sum := by
  have hsize : ("/".intercalate parts).utf8ByteSize + 1 =
      (parts.map fun name => name.utf8ByteSize + 1).sum := by
    induction parts with
    | nil => exact absurd rfl h
    | cons name parts ih =>
      cases parts with
      | nil => simp
      | cons next parts =>
        rw [List.map_cons, List.sum_cons, ← ih (List.cons_ne_nil _ _),
          String.intercalate_cons_cons, String.utf8ByteSize_append, String.utf8ByteSize_append,
          show "/".utf8ByteSize = 1 from rfl]
        omega
  have hslash : Root.slash.toString.utf8ByteSize = 1 := rfl
  rw [toString, String.utf8ByteSize_append, ← hsize, hslash, Nat.add_comm]

/-- A directory under some names, one below the other. -/
def Directory.nested : List String → Directory → Directory
  | [], es => es
  | name :: names, es => [(name, .directory (nested names es))]

theorem Entry.below?_nested (names : List String) (es : Directory) :
    (Entry.directory (Directory.nested names es)).below? names = some (.directory es) := by
  induction names with
  | nil => rfl
  | cons name names ih => simp [Directory.nested, ih]

theorem Entry.isTree_nested {names : List String} {es : Directory} (hnames : ".." ∉ names)
    (hes : (Entry.directory es).IsTree) : (Entry.directory (Directory.nested names es)).IsTree := by
  induction names with
  | nil => exact hes
  | cons name names ih =>
    rw [List.mem_cons, not_or] at hnames
    refine .directory (List.nodup_singleton _) ?_ (List.forall_mem_singleton.2 (ih hnames.2))
    exact fun hup => hnames.1 (List.mem_singleton.1 hup)

namespace Disk

/-- A disk with a directory under some names, which is the working directory. -/
def nested (names : List String) (es : Directory) : Disk where
  root := Directory.nested names es
  workingDirectory := names

theorem nested_put (names : List String) (name : String) (e : Entry) (es : Directory) :
    (nested names es).put names name e = nested names (es.put name e) := by
  have hput : (Directory.nested names es).putAt names name e =
      Directory.nested names (es.put name e) := by
    induction names with
    | nil => rfl
    | cons n names ih => simp [Directory.nested, Directory.putAt, ih]
  rw [put, nested, nested, hput]

theorem relists_nested (names : List String) {es es' : Directory} (hes : (es.map Prod.fst).Nodup)
    (hperm : es.Perm es') : Relists (nested names es) (nested names es') where
  workingDirectory := rfl
  entries place := by
    show ((Entry.directory (Directory.nested names es')).below? place).map Entry.outside =
      ((Entry.directory (Directory.nested names es)).below? place).map Entry.outside
    induction names generalizing place with
    | nil => exact Entry.outside_below?_perm hes hperm place
    | cons name names ih =>
      cases place with
      | nil => rfl
      | cons n place =>
        rw [Directory.nested, Directory.nested, Entry.below?_directory, Entry.below?_directory]
        by_cases hn : n = name
        · subst hn
          simpa using ih place
        · rw [Assoc.lookup_cons_of_ne hn, Assoc.lookup_cons_of_ne hn]

/-- Names of directories, one below the other, that a path leads through. -/
structure Enterable (names : List String) : Prop where
  fault : pathFault? ⟨.slash, names⟩ = none
  short : ∀ name ∈ names, name.utf8ByteSize ≤ nameLimit
  up : ".." ∉ names

namespace Enterable

variable {names : List String} {es : Directory}

theorem isTree (h : Enterable names) (hes : (Entry.directory es).IsTree) :
    (nested names es).IsTree :=
  Entry.isTree_nested h.up hes

theorem entry_eq (h : Enterable names) (hes : (Entry.directory es).IsTree) :
    (nested names es).entry ⟨.slash, names⟩ = .ok (.directory es) := by
  refine (h.isTree hes).entry_eq_ok_of_place (Entry.below?_nested names es) h.fault ?_
  rw [List.any_eq_false]
  intro name hname
  simpa using h.short name hname

theorem entry_child (h : Enterable names) (hes : (Entry.directory es).IsTree) {name : String}
    {e : Entry} (hlookup : es.lookup name = some e)
    (hfault : Search.entryFault? ⟨.slash, names⟩ name = none) :
    (nested names es).entry ((Path.mk .slash names).child name) = .ok e := by
  rw [Search.entryFault?, Option.or_eq_none_iff] at hfault
  obtain ⟨hfault, hlong⟩ := hfault
  have hshort : ¬ nameLimit < name.utf8ByteSize := by
    intro h
    rw [if_pos h] at hlong
    cases hlong
  have hhere : (nested names es).entryAt? names = some (.directory es) :=
    Entry.below?_nested names es
  have hplace : (nested names es).entryAt? (names ++ [name]) = some e := by
    rw [entryAt?_child hhere, hlookup]
  refine (h.isTree hes).entry_eq_ok_of_place hplace hfault ?_
  rw [List.any_append, Bool.or_eq_false_iff, List.any_eq_false]
  refine ⟨fun n hn => ?_, by simpa using Nat.not_lt.1 hshort⟩
  simpa using h.short n hn

theorem realPath_eq (h : Enterable names) (hes : (Entry.directory es).IsTree) :
    (nested names es).realPath ⟨.slash, names⟩ = ⟨.slash, names⟩ := by
  have hclimb : ∀ (names place : List String), ".." ∉ names →
      names.foldl climb place = place ++ names := by
    intro names
    induction names with
    | nil => simp
    | cons name names ih =>
      intro place hnames
      rw [List.mem_cons, not_or] at hnames
      rw [List.foldl_cons, climb, if_neg (Ne.symm hnames.1), ih _ hnames.2, List.append_assoc]
      rfl
  rw [realPath, (h.isTree hes).realFrom_eq, hclimb _ _ h.up]
  rfl

/-- A search in the directory walks along its listing. -/
theorem find_eq (h : Enterable names) (hes : (Entry.directory es).IsTree) :
    Search.find (nested names es) {} ⟨.slash, names⟩ =
      .ok ((Search.below {} ⟨.slash, names⟩ (.directory es)).files.mergeSort Path.le) := by
  have hreal := h.realPath_eq hes
  rw [Search.find_of_entry rfl ((congrArg _ hreal).trans (h.entry_eq hes)), hreal]

end Enterable

/-- Names of directories, one below the other, whose path has 4090 bytes: a name of four bytes can
stand in the last of them, but no longer one. -/
structure AtLimit (names : List String) : Prop where
  size : (names.map fun name => name.utf8ByteSize + 1).sum = 4090
  short : ∀ name ∈ names, name.utf8ByteSize ≤ nameLimit
  up : ".." ∉ names
  ended : ∀ name ∈ names, '\x00' ∉ name.toList

namespace AtLimit

variable {names : List String} {es : Directory}

theorem ne_nil (h : AtLimit names) : names ≠ [] := by
  rintro rfl
  exact absurd h.size (by decide)

theorem pathFault?_append (h : AtLimit names) (more : List String)
    (hmore : ∀ name ∈ more, '\x00' ∉ name.toList) : pathFault? ⟨.slash, names ++ more⟩ =
      if 5 < (more.map fun name => name.utf8ByteSize + 1).sum then some .nameTooLong else none := by
  have hended : ((names ++ more).any fun name => name.toList.contains '\x00') = false := by
    rw [List.any_eq_false]
    intro name hname
    rw [List.contains_iff_mem]
    rcases List.mem_append.1 hname with hname | hname
    · exact h.ended name hname
    · exact hmore name hname
  rw [pathFault?, hended, Path.utf8ByteSize_toString (List.append_ne_nil_of_left_ne_nil h.ne_nil _),
    List.map_append, List.sum_append, h.size, pathLimit]
  simp only [Bool.false_eq_true, if_false]
  exact if_congr (by omega) rfl rfl

theorem entryFault?_eq (h : AtLimit names) {name : String} (hname : '\x00' ∉ name.toList)
    (hshort : name.utf8ByteSize ≤ nameLimit) : Search.entryFault? ⟨.slash, names⟩ name =
      if 4 < name.utf8ByteSize then some .nameTooLong else none := by
  have hfault := h.pathFault?_append [name] (by simpa using hname)
  rw [Search.entryFault?, Path.child, hfault, if_neg (Nat.not_lt.2 hshort), Option.or_none]
  simp only [List.map_cons, List.map_nil, List.sum_cons, List.sum_nil]
  exact if_congr (by omega) rfl rfl

theorem enterable (h : AtLimit names) : Enterable names where
  fault := by
    have hfault := h.pathFault?_append [] (by simp)
    rwa [List.append_nil] at hfault
  short := h.short
  up := h.up

/-- Nothing is found behind a name that is too long. -/
theorem below_cons_of_long (h : AtLimit names) {name : String} (hname : '\x00' ∉ name.toList)
    (hshort : name.utf8ByteSize ≤ nameLimit) (hlong : 4 < name.utf8ByteSize) (e : Entry)
    (es : Directory) :
    (Search.below {} ⟨.slash, names⟩ (.directory ((name, e) :: es))).files = [] := by
  have hfault := h.entryFault?_eq hname hshort
  rw [if_pos hlong] at hfault
  rw [Search.below_cons rfl, Search.Walk.listed.eq_def, hfault]
  rfl

theorem below_cons_of_short (h : AtLimit names) {name : String} (hname : '\x00' ∉ name.toList)
    (hshort : name.utf8ByteSize ≤ 4)
    (hwants : Search.Query.wants {} ((Path.mk .slash names).child name) = true)
    (bytes : Text.Bytes) (es : Directory) :
    (Search.below {} ⟨.slash, names⟩ (.directory ((name, .file bytes) :: es))).files =
      (Path.mk .slash names).child name ::
        (Search.below {} ⟨.slash, names⟩ (.directory es)).files := by
  have hfault := h.entryFault?_eq hname (hshort.trans (by decide))
  rw [if_neg (Nat.not_lt.2 hshort)] at hfault
  rw [Search.below_cons rfl, Search.Walk.listed_of_none hfault, Search.found_file,
    Search.Walk.file, if_pos hwants]
  rfl

end AtLimit

/-- A name of some letters. -/
def longName (n : Nat) : String := String.ofList (List.replicate n 'd')

theorem toList_longName (n : Nat) : (longName n).toList = List.replicate n 'd' :=
  String.toList_ofList

theorem utf8ByteSize_longName (n : Nat) : (longName n).utf8ByteSize = n := by
  induction n with
  | zero => rfl
  | succ n ih =>
    rw [longName] at ih
    rw [longName, List.replicate_succ', String.ofList_append, String.utf8ByteSize_append, ih]
    rfl

/-- The names of sixteen directories, one below the other. -/
def limitNames : List String := List.replicate 15 (longName 255) ++ [longName 249]

theorem forall_mem_limitNames {p : String → Prop} (h : ∀ n, 0 < n → n ≤ 255 → p (longName n)) :
    ∀ name ∈ limitNames, p name := by
  intro name hname
  rcases List.mem_append.1 hname with hname | hname
  · rw [List.eq_of_mem_replicate hname]
    exact h 255 (by omega) (by omega)
  · rw [List.mem_singleton.1 hname]
    exact h 249 (by omega) (by omega)

theorem atLimit_limitNames : AtLimit limitNames where
  size := by simp [limitNames, utf8ByteSize_longName]
  short := forall_mem_limitNames fun n _ hn => by rwa [utf8ByteSize_longName]
  up := by
    refine fun hup => forall_mem_limitNames (p := (· ≠ "..")) (fun n hn _ heq => ?_) ".." hup rfl
    have hd : 'd' ∈ (longName n).toList := by simp [toList_longName, Nat.ne_of_gt hn]
    rw [heq] at hd
    exact absurd hd (by decide)
  ended := forall_mem_limitNames fun n _ _ => by simp [toList_longName]

end Disk

end Disposal
