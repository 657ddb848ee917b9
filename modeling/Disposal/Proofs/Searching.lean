import Disposal.Proofs.DiskTree
import Disposal.Search

/-!
# Walks over directories

A search that follows no links looks at the tree below its root and at nothing else.  An entry whose
path is too long ends the listing of its directory, so what is found depends on what is listed
before such an entry.

* `Search.below` is the walk below an entry; `Search.mem_below_iff` says which files it finds, in
  terms of `Search.Reaches`, and `Search.nodup_below` that it finds none twice;
* `Search.Usable` says that no path that the walk looks at is too long; then it reaches everything
  (`Search.Usable.reaches`) and has nothing to say (`Search.Usable.said_below`).
-/

namespace Disposal

theorem Path.child_parts_append (p : Path) (name : String) (names : List String) :
    (p.child name).parts ++ names = p.parts ++ name :: names :=
  List.append_assoc ..

namespace Search

variable {disk : Disk} {q : Query} {root shown : Path} {name : String} {e : Entry} {es : Directory}

/-! ### Listings -/

theorem entryFault?_cases (shown : Path) (name : String) : entryFault? shown name = none ∨
    entryFault? shown name = some .endedPath ∨ entryFault? shown name = some .nameTooLong := by
  rw [entryFault?, Disk.pathFault?]
  split_ifs <;> simp

namespace Walk

@[simp] theorem files_append (v w : Walk) : (v ++ w).files = v.files ++ w.files := rfl

theorem mem_file {p r : Path} : p ∈ (file q r).files ↔ p = r ∧ q.wants r = true := by
  rw [file]
  split_ifs with hwants <;> simp [hwants]

theorem listed_of_none (h : entryFault? shown name = none) (here rest : Walk) :
    listed shown name (.ok here) rest = here ++ rest := by
  rw [listed.eq_def, h]

/-- What is found along a listing is found at the entry, or behind it unless the listing ends. -/
theorem mem_listed {p : Path} {here rest : Walk} :
    p ∈ (listed shown name (.ok here) rest).files ↔
      entryFault? shown name = none ∧ p ∈ here.files ∨
        entryFault? shown name ≠ some .nameTooLong ∧ p ∈ rest.files := by
  rcases entryFault?_cases shown name with hfault | hfault | hfault <;>
    simp [listed, hfault, ended]

theorem files_listed_sublist (shown : Path) (name : String) (here rest : Walk) :
    (listed shown name (.ok here) rest).files.Sublist (here.files ++ rest.files) := by
  rcases entryFault?_cases shown name with hfault | hfault | hfault
  · rw [listed_of_none hfault]
    exact List.Sublist.refl _
  · rw [listed.eq_def, hfault]
    exact List.sublist_append_right _ _
  · rw [listed.eq_def, hfault]
    exact List.nil_sublist _

end Walk

/-- A listing gives an entry: it can be looked at, and the path of none before it is too long. -/
def Lists (shown : Path) (es : Directory) (name : String) (e : Entry) : Prop :=
  ∃ before behind, es = before ++ (name, e) :: behind ∧ entryFault? shown name = none ∧
    ∀ x ∈ before, entryFault? shown x.1 ≠ some .nameTooLong

theorem Lists.mem (h : Lists shown es name e) : (name, e) ∈ es := by
  obtain ⟨before, behind, rfl, -, -⟩ := h
  exact List.mem_append_right _ List.mem_cons_self

theorem not_lists_nil : ¬ Lists shown [] name e := fun h => List.not_mem_nil h.mem

theorem lists_cons {entry : String × Entry} : Lists shown (entry :: es) name e ↔
    entry = (name, e) ∧ entryFault? shown name = none ∨
      entryFault? shown entry.1 ≠ some .nameTooLong ∧ Lists shown es name e := by
  constructor
  · rintro ⟨_ | ⟨x, before⟩, behind, heq, hfault, hbefore⟩
    · exact .inl ⟨(List.cons.inj heq).1, hfault⟩
    · obtain ⟨rfl, rfl⟩ := List.cons.inj heq
      exact .inr ⟨hbefore _ List.mem_cons_self, before, behind, rfl, hfault,
        fun y hy => hbefore y (List.mem_cons_of_mem _ hy)⟩
  · rintro (⟨rfl, hfault⟩ | ⟨hentry, before, behind, rfl, hfault, hbefore⟩)
    · exact ⟨[], es, rfl, hfault, by simp⟩
    · exact ⟨entry :: before, behind, rfl, hfault, List.forall_mem_cons.2 ⟨hentry, hbefore⟩⟩

theorem lists_of_mem (hentry : (name, e) ∈ es) (h : ∀ x ∈ es, entryFault? shown x.1 = none) :
    Lists shown es name e := by
  obtain ⟨before, behind, rfl⟩ := List.append_of_mem hentry
  refine ⟨before, behind, rfl, h _ hentry, fun x hx => ?_⟩
  rw [h x (List.mem_append_left _ hx)]
  simp

/-! ### Walks without links -/

theorem filesBelow_nil (disk : Disk) (q : Query) (links : Nat) (shown : Path)
    (place : List String) : filesBelow disk q links shown place [] = {} := by
  rw [filesBelow.eq_def]

theorem filesBelow_file (disk : Disk) (q : Query) (links : Nat) (shown : Path)
    (place : List String) (name : String) (bytes : Text.Bytes) (es : Directory) :
    filesBelow disk q links shown place ((name, .file bytes) :: es) =
      .listed shown name (.ok (.file q (shown.child name)))
        (filesBelow disk q links shown place es) := by
  rw [filesBelow.eq_def]

theorem filesBelow_directory (disk : Disk) (q : Query) (links : Nat) (shown : Path)
    (place : List String) (name : String) (sub es : Directory) :
    filesBelow disk q links shown place ((name, .directory sub) :: es) =
      .listed shown name
        (.ok (if isIgnored q.ignored (shown.child name) then {}
          else filesBelow disk q links (shown.child name) (place ++ [name]) sub))
        (filesBelow disk q links shown place es) := by
  rw [filesBelow.eq_def]

theorem filesBelow_link (hlinks : q.followLinks = false) (disk : Disk) (links : Nat)
    (shown : Path) (place : List String) (name : String) (target : Path) (es : Directory) :
    filesBelow disk q links shown place ((name, .link target) :: es) =
      .listed shown name (.ok {}) (filesBelow disk q links shown place es) := by
  rw [filesBelow.eq_def]
  simp only [hlinks]

theorem filesBelow_congr (hlinks : q.followLinks = false) (disk other : Disk) (links more : Nat)
    (shown : Path) (place elsewhere : List String) (es : Directory) :
    filesBelow disk q links shown place es = filesBelow other q more shown elsewhere es := by
  fun_induction filesBelow disk q links shown place es generalizing more elsewhere with
  | case1 => rw [filesBelow_nil]
  | case2 links shown place name bytes es ih => rw [filesBelow_file, ih]
  | case3 links shown place name sub es ihsub ih => rw [filesBelow_directory, ihsub, ih]
  | case4 links shown place name target es _ ih =>
    simp only [hlinks]
    rw [filesBelow_link hlinks, ih]

/-- The walk below an entry, for a search that follows no links. -/
def below (q : Query) (shown : Path) : Entry → Walk
  | .directory es => filesBelow {} q 0 shown [] es
  | _ => {}

/-- What a search that follows no links finds at one entry of a directory. -/
def found (q : Query) (shown : Path) (entry : String × Entry) : Walk :=
  match entry.2 with
  | .file _ => .file q (shown.child entry.1)
  | .directory sub => if isIgnored q.ignored (shown.child entry.1) then {}
    else below q (shown.child entry.1) (.directory sub)
  | .link _ => {}

theorem found_file (q : Query) (shown : Path) (name : String) (bytes : Text.Bytes) :
    found q shown (name, .file bytes) = .file q (shown.child name) := rfl

theorem found_directory (q : Query) (shown : Path) (name : String) (sub : Directory) :
    found q shown (name, .directory sub) =
      if isIgnored q.ignored (shown.child name) then {}
      else below q (shown.child name) (.directory sub) := rfl

theorem filesBelow_eq (hlinks : q.followLinks = false) (disk : Disk) (links : Nat) (shown : Path)
    (place : List String) (es : Directory) :
    filesBelow disk q links shown place es = below q shown (.directory es) :=
  filesBelow_congr hlinks ..

theorem below_nil (q : Query) (shown : Path) : below q shown (.directory []) = {} :=
  filesBelow_nil ..

/-- **One step of the walk** along a listing. -/
theorem below_cons (hlinks : q.followLinks = false) (shown : Path) (entry : String × Entry)
    (es : Directory) : below q shown (.directory (entry :: es)) =
      .listed shown entry.1 (.ok (found q shown entry)) (below q shown (.directory es)) := by
  obtain ⟨name, e⟩ := entry
  cases e with
  | file bytes => rw [below, filesBelow_file, found_file, below]
  | directory sub =>
    rw [below, filesBelow_directory, found_directory, filesBelow_eq hlinks]
    rfl
  | link target => rw [below, filesBelow_link hlinks, found, below]

/-- What is found below a directory is found at an entry that its listing gives. -/
theorem mem_below_directory (hlinks : q.followLinks = false) {p : Path} :
    p ∈ (below q shown (.directory es)).files ↔
      ∃ name e, Lists shown es name e ∧ p ∈ (found q shown (name, e)).files := by
  induction es with
  | nil =>
    rw [below_nil]
    exact iff_of_false List.not_mem_nil fun ⟨_, _, hlists, _⟩ => not_lists_nil hlists
  | cons entry es ih =>
    rw [below_cons hlinks, Walk.mem_listed, ih]
    simp only [lists_cons]
    constructor
    · rintro (⟨hfault, hp⟩ | ⟨hentry, name, e, hlists, hp⟩)
      · exact ⟨entry.1, entry.2, .inl ⟨rfl, hfault⟩, hp⟩
      · exact ⟨name, e, .inr ⟨hentry, hlists⟩, hp⟩
    · rintro ⟨name, e, ⟨rfl, hfault⟩ | ⟨hentry, hlists⟩, hp⟩
      · exact .inl ⟨hfault, hp⟩
      · exact .inr ⟨hentry, name, e, hlists, hp⟩

theorem below_directory (hlinks : q.followLinks = false)
    (h : ∀ entry ∈ es, entryFault? shown entry.1 = none) : below q shown (.directory es) =
      ⟨es.flatMap fun entry => (found q shown entry).files,
        es.flatMap fun entry => (found q shown entry).said⟩ := by
  induction es with
  | nil => rw [below_nil]; rfl
  | cons entry es ih =>
    rw [below_cons hlinks, Walk.listed_of_none (h _ List.mem_cons_self),
      ih fun x hx => h x (List.mem_cons_of_mem _ hx)]
    rfl

/-! ### What is found -/

/-- The walk reaches the end of some names: every directory on the way lists the next one. -/
def Reaches (shown : Path) : List String → Entry → Prop
  | [], _ => True
  | name :: names, .directory es =>
    ∃ e, Lists shown es name e ∧ Reaches (shown.child name) names e
  | _ :: _, _ => False

/-- The walk finds a path whose names lead to a file, none of them but the last to be passed
over, if it reaches this file. -/
theorem mem_below_iff (hlinks : q.followLinks = false) {x : Entry} (hx : x.DistinctNames)
    {shown p : Path} : p ∈ (below q shown x).files ↔
      ∃ names, names ≠ [] ∧ p = ⟨shown.root, shown.parts ++ names⟩ ∧
      (∃ bytes, x.below? names = some (.file bytes)) ∧
      (∀ name ∈ names.dropLast, name ∉ q.ignored) ∧ q.wants p = true ∧ Reaches shown names x := by
  induction hx generalizing shown with
  | file bytes =>
    refine iff_of_false List.not_mem_nil ?_
    rintro ⟨name | ⟨name, names⟩, hne, -, ⟨bytes', hbelow⟩, -⟩
    · exact hne rfl
    · simp at hbelow
  | link target =>
    refine iff_of_false List.not_mem_nil ?_
    rintro ⟨name | ⟨name, names⟩, hne, -, ⟨bytes', hbelow⟩, -⟩
    · exact hne rfl
    · simp at hbelow
  | @directory es keys entries ih =>
    rw [mem_below_directory hlinks]
    constructor
    · rintro ⟨name, y, hlists, hp⟩
      have hlookup := Assoc.lookup_of_mem keys hlists.mem
      cases y with
      | file bytes =>
        obtain ⟨rfl, hwants⟩ := Walk.mem_file.1 hp
        exact ⟨[name], by simp, rfl, ⟨bytes, by simp [hlookup]⟩, by simp, hwants,
          _, hlists, trivial⟩
      | directory sub =>
        rw [found_directory] at hp
        split_ifs at hp with hignored
        · cases hp
        · obtain ⟨names, hne, rfl, ⟨bytes, hbelow⟩, hnames, hwants, hreaches⟩ :=
            (ih _ hlists.mem).1 hp
          refine ⟨name :: names, by simp, by simp [Path.child], ⟨bytes, ?_⟩, ?_, hwants,
            _, hlists, hreaches⟩
          · rw [Entry.below?_directory, hlookup, Option.bind_some, hbelow]
          · rw [List.dropLast_cons_of_ne_nil hne, List.forall_mem_cons]
            refine ⟨?_, hnames⟩
            simpa [isIgnored, Path.name, Path.child] using hignored
      | link target => cases hp
    · rintro ⟨name | ⟨name, names⟩, hne, rfl, ⟨bytes, hbelow⟩, hnames, hwants, hreaches⟩
      · exact absurd rfl hne
      obtain ⟨y, hlists, hreaches⟩ := hreaches
      rw [Entry.below?_directory, Assoc.lookup_of_mem keys hlists.mem, Option.bind_some] at hbelow
      refine ⟨name, y, hlists, ?_⟩
      cases names with
      | nil =>
        rw [Entry.below?_nil, Option.some.injEq] at hbelow
        subst hbelow
        exact Walk.mem_file.2 ⟨rfl, hwants⟩
      | cons next names =>
        cases y with
        | file bytes => simp at hbelow
        | link target => simp at hbelow
        | directory sub =>
          rw [List.dropLast_cons_of_ne_nil (List.cons_ne_nil _ _), List.forall_mem_cons] at hnames
          have hignored : isIgnored q.ignored (shown.child name) = false := by
            simpa [isIgnored, Path.name, Path.child] using hnames.1
          rw [found_directory, hignored]
          refine (ih _ hlists.mem).2
            ⟨next :: names, by simp, ?_, ⟨bytes, hbelow⟩, hnames.2, hwants, hreaches⟩
          simp [Path.child]

theorem exists_parts_of_mem_found (hlinks : q.followLinks = false) {p : Path}
    {entry : String × Entry} (hentry : entry.2.DistinctNames)
    (hp : p ∈ (found q shown entry).files) :
    ∃ names, p.parts = shown.parts ++ entry.1 :: names := by
  obtain ⟨name, e⟩ := entry
  cases e with
  | file bytes =>
    obtain ⟨rfl, -⟩ := Walk.mem_file.1 hp
    exact ⟨[], rfl⟩
  | link target => cases hp
  | directory sub =>
    rw [found_directory] at hp
    split_ifs at hp
    · cases hp
    · obtain ⟨names, -, rfl, -⟩ := (mem_below_iff hlinks hentry).1 hp
      exact ⟨names, by simp [Path.child]⟩

/-- A walk finds no more than what is at the entries of the listing, in its order. -/
theorem files_below_sublist (hlinks : q.followLinks = false) (shown : Path) (es : Directory) :
    (below q shown (.directory es)).files.Sublist
      (es.flatMap fun entry => (found q shown entry).files) := by
  induction es with
  | nil =>
    rw [below_nil]
    exact List.nil_sublist _
  | cons entry es ih =>
    rw [below_cons hlinks, List.flatMap_cons]
    exact (Walk.files_listed_sublist ..).trans (ih.append_left _)

theorem nodup_below (hlinks : q.followLinks = false) {x : Entry} (hx : x.DistinctNames)
    (shown : Path) : ((below q shown x).files.map Path.parts).Nodup := by
  induction hx generalizing shown with
  | file bytes => exact List.nodup_nil
  | link target => exact List.nodup_nil
  | @directory es keys entries ih =>
    refine ((files_below_sublist hlinks shown es).map Path.parts).nodup ?_
    rw [List.map_flatMap, List.nodup_flatMap]
    constructor
    · rintro ⟨name, y⟩ hentry
      cases y with
      | file bytes =>
        rw [found_file, Walk.file]
        split_ifs <;> simp
      | link target => exact List.nodup_nil
      | directory sub =>
        rw [found_directory]
        split_ifs
        · exact List.nodup_nil
        · exact ih _ hentry _
    · -- the names of two entries differ, and what is found has one of them in the same place
      refine (List.pairwise_map.1 keys).imp_of_mem fun {a b} ha hb hab parts hpa hpb => hab ?_
      obtain ⟨p, hp, rfl⟩ := List.mem_map.1 hpa
      obtain ⟨r, hr, hparts⟩ := List.mem_map.1 hpb
      obtain ⟨names, hnames⟩ := exists_parts_of_mem_found hlinks (entries a ha) hp
      obtain ⟨names', hnames'⟩ := exists_parts_of_mem_found hlinks (entries b hb) hr
      rw [hnames, hnames', List.append_cancel_left_eq, List.cons.injEq] at hparts
      exact hparts.1.symm

/-! ### Paths that can be used -/

/-- Every entry that a search looks at below another can be looked at: its path is not too long. -/
def Usable (q : Query) (shown : Path) (x : Entry) : Prop :=
  ∀ names name e, x.below? (names ++ [name]) = some e → (∀ n ∈ names, n ∉ q.ignored) →
    entryFault? ⟨shown.root, shown.parts ++ names⟩ name = none

namespace Usable

theorem file (bytes : Text.Bytes) : Usable q shown (.file bytes) := by
  intro names name e he
  cases names <;> simp at he

theorem link (target : Path) : Usable q shown (.link target) := by
  intro names name e he
  cases names <;> simp at he

theorem directory (h : ∀ entry ∈ es, entryFault? shown entry.1 = none ∧
    (entry.1 ∉ q.ignored → Usable q (shown.child entry.1) entry.2)) :
    Usable q shown (.directory es) := by
  intro names name e he hnames
  cases names with
  | nil =>
    rw [List.nil_append, Entry.below?_directory, Option.bind_eq_some_iff] at he
    obtain ⟨y, hlookup, -⟩ := he
    rw [List.append_nil]
    exact (h _ (Assoc.mem_of_lookup hlookup)).1
  | cons n names =>
    rw [List.cons_append, Entry.below?_directory, Option.bind_eq_some_iff] at he
    obtain ⟨y, hlookup, he⟩ := he
    rw [List.forall_mem_cons] at hnames
    have hfault := (h _ (Assoc.mem_of_lookup hlookup)).2 hnames.1 names name e he hnames.2
    rwa [Path.child_parts_append] at hfault

theorem of_mem (h : Usable q shown (.directory es)) (hes : (Entry.directory es).DistinctNames)
    {entry : String × Entry} (hentry : entry ∈ es) : entryFault? shown entry.1 = none := by
  have hnames : (es.map Prod.fst).Nodup := by cases hes; assumption
  have hlookup := Assoc.lookup_of_mem hnames hentry
  have hfault := h [] entry.1 entry.2 (by simp [hlookup]) (by simp)
  simpa using hfault

theorem child (h : Usable q shown (.directory es)) (hlookup : es.lookup name = some e)
    (hname : name ∉ q.ignored) : Usable q (shown.child name) e := by
  intro names last x hx hnames
  have hfault := h (name :: names) last x (by simp [hlookup, hx])
    (List.forall_mem_cons.2 ⟨hname, hnames⟩)
  rwa [Path.child_parts_append]

/-- **Everything is reached** if all paths can be used. -/
theorem reaches {x : Entry} (hx : x.DistinctNames) (h : Usable q shown x) {names : List String}
    (he : x.below? names = some e) (hnames : ∀ name ∈ names.dropLast, name ∉ q.ignored) :
    Reaches shown names x := by
  induction names generalizing x shown with
  | nil => exact trivial
  | cons name names ih =>
    cases x with
    | file bytes => simp at he
    | link target => simp at he
    | directory es =>
      rw [Entry.below?_directory, Option.bind_eq_some_iff] at he
      obtain ⟨y, hlookup, he⟩ := he
      refine ⟨y, lists_of_mem (Assoc.mem_of_lookup hlookup) fun x hxe => h.of_mem hx hxe, ?_⟩
      cases names with
      | nil => exact trivial
      | cons next names =>
        rw [List.dropLast_cons_of_ne_nil (List.cons_ne_nil _ _), List.forall_mem_cons] at hnames
        exact ih (hx.of_lookup hlookup) (h.child hlookup hnames.1) he hnames.2

theorem said_below (hlinks : q.followLinks = false) {x : Entry} (hx : x.DistinctNames)
    (h : Usable q shown x) : (below q shown x).said = [] := by
  induction hx generalizing shown with
  | file bytes => rfl
  | link target => rfl
  | @directory es keys entries ih =>
    rw [below_directory hlinks fun entry hentry => h.of_mem (.directory keys entries) hentry,
      List.flatMap_eq_nil_iff]
    rintro ⟨name, y⟩ hentry
    cases y with
    | file bytes => rfl
    | link target => rfl
    | directory sub =>
      rw [found_directory]
      split_ifs with hignored
      · rfl
      · refine ih _ hentry (h.child (Assoc.lookup_of_mem keys hentry) ?_)
        simpa [isIgnored, Path.name, Path.child] using hignored

end Usable

/-! ### Searches -/

theorem walk_of_entry (hlinks : q.followLinks = false)
    (hroot : disk.entry (disk.realPath root) = .ok (.directory es)) : walk disk q root =
      .ok ⟨(below q (disk.realPath root) (.directory es)).files.mergeSort Path.le,
        (below q (disk.realPath root) (.directory es)).said⟩ := by
  rw [walk, hroot]
  simp only [filesBelow_eq hlinks]

theorem find_eq_ok (hlinks : q.followLinks = false) {files : List Path} :
    find disk q root = .ok files ↔ ∃ es, disk.entry (disk.realPath root) = .ok (.directory es) ∧
      (below q (disk.realPath root) (.directory es)).files.mergeSort Path.le = files := by
  rw [find, walk]
  cases hroot : disk.entry (disk.realPath root) with
  | error e => simp [Except.map]
  | ok e => cases e <;> simp [Except.map, filesBelow_eq hlinks]

theorem find_of_entry (hlinks : q.followLinks = false)
    (hroot : disk.entry (disk.realPath root) = .ok (.directory es)) : find disk q root =
      .ok ((below q (disk.realPath root) (.directory es)).files.mergeSort Path.le) :=
  (find_eq_ok hlinks).2 ⟨es, hroot, rfl⟩

end Search

end Disposal
