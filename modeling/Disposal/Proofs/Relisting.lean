import Disposal.Proofs.Following

/-!
# Disks that list their directories in another order

The order in which a directory lists its entries is a matter of the disk.

* `Disk.Relists`: two disks differ in the order of their listings only;
* `Disk.Relists.resolve_eq`, `Disk.Relists.realPath_eq`: paths lead to the same on both, and
  `Disk.Relists.exists_entry_eq_ok`: the same stands there.
-/

namespace Disposal

/-- An entry as it is seen from outside: what stands in a directory is not. -/
def Entry.outside : Entry → Entry
  | .directory _ => .directory []
  | e => e

/-- The same stands below a directory that is listed in another order. -/
theorem Entry.outside_below?_perm {es es' : Directory} (hnames : (es.map Prod.fst).Nodup)
    (hperm : es.Perm es') (names : List String) :
    ((Entry.directory es').below? names).map Entry.outside =
      ((Entry.directory es).below? names).map Entry.outside := by
  cases names with
  | nil => rfl
  | cons name names =>
    rw [Entry.below?_directory, Entry.below?_directory, Assoc.lookup_perm hnames hperm]

namespace Disk

variable {disk other : Disk} {place : List String} {e : Entry}

theorem DistinctNames.of_entry (h : disk.DistinctNames) {p : Path} (he : disk.entry p = .ok e) :
    e.DistinctNames := by
  obtain ⟨place, -, hplace⟩ := entry_eq_ok.1 he
  exact Entry.DistinctNames.of_below h hplace

/-- On both disks the same stands at the same places; only the order in which a directory lists its
entries may differ. -/
structure Relists (disk other : Disk) : Prop where
  workingDirectory : other.workingDirectory = disk.workingDirectory
  entries : ∀ place, (other.entryAt? place).map Entry.outside =
    (disk.entryAt? place).map Entry.outside

namespace Relists

theorem symm (h : Relists disk other) : Relists other disk :=
  ⟨h.workingDirectory.symm, fun place => (h.entries place).symm⟩

theorem of_perm (hworking : other.workingDirectory = disk.workingDirectory)
    (hnames : (disk.root.map Prod.fst).Nodup) (hperm : disk.root.Perm other.root) :
    Relists disk other where
  workingDirectory := hworking
  entries := Entry.outside_below?_perm hnames hperm

theorem exists_entry (h : Relists disk other) (he : disk.entryAt? place = some e) :
    ∃ e', other.entryAt? place = some e' ∧ e'.outside = e.outside := by
  have hplace := h.entries place
  rw [he, Option.map_some] at hplace
  exact Option.map_eq_some_iff.1 hplace

theorem directory (h : Relists disk other) {es : Directory}
    (he : disk.entryAt? place = some (.directory es)) :
    ∃ es', other.entryAt? place = some (.directory es') := by
  obtain ⟨e', he', hout⟩ := h.exists_entry he
  cases e' with
  | directory es' => exact ⟨es', he'⟩
  | file bytes => cases hout
  | link target => cases hout

theorem file (h : Relists disk other) {bytes : Text.Bytes}
    (he : disk.entryAt? place = some (.file bytes)) :
    other.entryAt? place = some (.file bytes) := by
  obtain ⟨e', he', hout⟩ := h.exists_entry he
  cases e' with
  | file bytes' =>
    obtain rfl := Entry.file.inj hout
    exact he'
  | directory es => cases hout
  | link target => cases hout

theorem step_eq (h : Relists disk other) (place : List String) (name : String) :
    other.step place name = disk.step place name := by
  have hplace := h.entries place
  rw [step, step]
  cases hd : disk.entryAt? place with
  | none =>
    rw [hd, Option.map_none, Option.map_eq_none_iff] at hplace
    rw [hplace]
  | some e =>
    cases e with
    | file bytes => rw [h.file hd]
    | link target =>
      obtain ⟨e', he', hout⟩ := h.exists_entry hd
      rw [he']
      cases e' <;> first | rfl | cases hout
    | directory es =>
      obtain ⟨es', hes'⟩ := h.directory hd
      have hchild := h.entries (place ++ [name])
      rw [entryAt?_child hd, entryAt?_child hes'] at hchild
      rw [hes']
      simp only
      cases hname : es.lookup name with
      | none =>
        rw [hname, Option.map_none, Option.map_eq_none_iff] at hchild
        rw [hchild]
      | some e =>
        rw [hname, Option.map_some] at hchild
        obtain ⟨e', he', hout⟩ := Option.map_eq_some_iff.1 hchild
        rw [he']
        cases e <;> cases e' <;> cases hout <;> rfl

theorem resolveFrom_eq (h : Relists disk other) (links : Nat) (place pending : List String) :
    other.resolveFrom links place pending = disk.resolveFrom links place pending := by
  fun_induction Disk.resolveFrom disk links place pending with
  | case1 => rw [resolveFrom]
  | case2 links place name pending cause hstep => rw [resolveFrom, h.step_eq, hstep]
  | case3 links place name free hstep =>
    rw [resolveFrom, h.step_eq, hstep]
    rfl
  | case4 links place name pending free hstep hmore =>
    rw [resolveFrom, h.step_eq, hstep]
    simp only [if_neg hmore]
  | case5 links place name pending next hstep ih => rw [resolveFrom, h.step_eq, hstep, ← ih]
  | case6 place name pending target hstep => rw [resolveFrom, h.step_eq, hstep]
  | case7 place name pending target hstep links ih => rw [resolveFrom, h.step_eq, hstep, ← ih]

theorem realFrom_eq (h : Relists disk other) (links : Nat) (place pending : List String) :
    other.realFrom links place pending = disk.realFrom links place pending := by
  fun_induction Disk.realFrom disk links place pending with
  | case1 => rw [realFrom]
  | case2 links place name pending cause hstep ih =>
    rw [realFrom, h.step_eq, hstep]
    simpa using ih
  | case3 links place name pending free hstep ih => rw [realFrom, h.step_eq, hstep, ← ih]
  | case4 links place name pending next hstep ih => rw [realFrom, h.step_eq, hstep, ← ih]
  | case5 place name pending target hstep ih => rw [realFrom, h.step_eq, hstep, ← ih]
  | case6 place name pending target hstep links ih => rw [realFrom, h.step_eq, hstep, ← ih]

theorem realPath_eq (h : Relists disk other) (p : Path) : other.realPath p = disk.realPath p := by
  rw [realPath, realPath, start, start, h.workingDirectory, h.realFrom_eq]

theorem resolve_eq (h : Relists disk other) (p : Path) : other.resolve p = disk.resolve p := by
  rw [resolve, resolve, start, start, h.workingDirectory, h.resolveFrom_eq]

/-- A directory is a directory on the other disk, and the same stands below it. -/
theorem exists_entry_eq_ok (h : Relists disk other) {p : Path} {es : Directory}
    (hes : disk.entry p = .ok (.directory es)) : ∃ es', other.entry p = .ok (.directory es') ∧
      ∀ names, ((Entry.directory es').below? names).map Entry.outside =
        ((Entry.directory es).below? names).map Entry.outside := by
  obtain ⟨place, hplace, hes⟩ := entry_eq_ok.1 hes
  obtain ⟨es', hes'⟩ := h.directory hes
  refine ⟨es', entry_eq_ok.2 ⟨place, h.resolve_eq p ▸ hplace, hes'⟩, fun names => ?_⟩
  have hplace := h.entries (place ++ names)
  rwa [entryAt?_append, entryAt?_append, hes, hes'] at hplace

theorem isDirectory_eq (h : Relists disk other) (p : Path) :
    other.isDirectory p = disk.isDirectory p := by
  rw [Bool.eq_iff_iff, isDirectory_iff, isDirectory_iff]
  constructor
  · rintro ⟨es, hes⟩
    obtain ⟨es', hes', -⟩ := h.symm.exists_entry_eq_ok hes
    exact ⟨es', hes'⟩
  · rintro ⟨es, hes⟩
    obtain ⟨es', hes', -⟩ := h.exists_entry_eq_ok hes
    exact ⟨es', hes'⟩

theorem read_eq (h : Relists disk other) (p : Path) : other.read p = disk.read p := by
  rw [read, read, entry, entry, h.resolve_eq]
  cases disk.resolve p with
  | error cause => rfl
  | ok t =>
    cases t with
    | absent parent name => rfl
    | present place =>
      have hplace := h.entries place
      simp only
      cases hd : disk.entryAt? place with
      | none =>
        rw [hd, Option.map_none, Option.map_eq_none_iff] at hplace
        rw [hplace]
      | some e =>
        obtain ⟨e', he', hout⟩ := h.exists_entry hd
        rw [he']
        cases e <;> cases e' <;> cases hout <;> rfl

end Relists

end Disk

end Disposal
