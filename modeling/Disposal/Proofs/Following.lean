import Disposal.Proofs.DiskTree

/-!
# Following paths on trees

Without links a path is followed name by name, and where it leads does not change when the disk
only grows.

* `Disk.Leads` says where following leads, one constructor for each kind of step, and
  `Disk.IsTree.resolveFrom_eq_ok` that this is what a disk without links does;
* `Disk.IsTree.realFrom_eq`: there the path without links is found without looking at the disk;
* `Disk.Grows` says that what stands somewhere keeps standing there, and `Disk.Grows.leads` that
  following leads to the same place afterwards.
-/

namespace Disposal

namespace Disk

/-! ### Steps -/

/-- The place that a target stands for, whether it is free or not. -/
def Target.place : Target → List String
  | .present place => place
  | .absent parent name => parent ++ [name]

/-- Following the pending names from a place leads to a target. -/
inductive Leads (disk : Disk) : List String → List String → Target → Prop where
  | here (place : List String) : Leads disk place [] (.present place)
  | up {place : List String} {es : Directory} {pending : List String} {t : Target}
      (here : disk.entryAt? place = some (.directory es))
      (rest : Leads disk place.dropLast pending t) : Leads disk place (".." :: pending) t
  | down {place : List String} {es : Directory} {name : String} {pending : List String} {t : Target}
      (here : disk.entryAt? place = some (.directory es)) (down : name ≠ "..")
      (short : ¬ nameLimit < name.utf8ByteSize) (found : (es.lookup name).isSome = true)
      (rest : Leads disk (place ++ [name]) pending t) : Leads disk place (name :: pending) t
  | free {place : List String} {es : Directory} {name : String}
      (here : disk.entryAt? place = some (.directory es)) (down : name ≠ "..")
      (short : ¬ nameLimit < name.utf8ByteSize) (free : es.lookup name = none) :
      Leads disk place [name] (.absent place name)

variable {disk grown : Disk} {place pending : List String} {name : String} {t : Target}
  {links : Nat} {e : Entry} {es : Directory}

theorem IsTree.step_eq (h : disk.IsTree) (place : List String) (name : String) :
    disk.step place name = match disk.entryAt? place with
      | some (.directory es) =>
        if name = ".." then .descend place.dropLast
        else if nameLimit < name.utf8ByteSize then .fail .nameTooLong
        else if (es.lookup name).isSome then .descend (place ++ [name])
        else .free name
      | some (.file _) => .fail .notDirectory
      | _ => .fail .notFound := by
  rw [step]
  cases hplace : disk.entryAt? place with
  | none => rfl
  | some e =>
    cases e with
    | file bytes => rfl
    | link target => rfl
    | directory es =>
      simp only
      cases hname : es.lookup name with
      | none => simp
      | some x =>
        have hx : x.IsTree := (Entry.IsTree.of_below h hplace).of_lookup hname
        cases hx <;> simp

/-- **Following on a disk without links**: no link is used up, and the target is where the steps
lead. -/
theorem IsTree.resolveFrom_eq_ok (h : disk.IsTree) {left : Nat} :
    disk.resolveFrom links place pending = .ok (t, left) ↔
      disk.Leads place pending t ∧ left = links := by
  induction pending generalizing place with
  | nil =>
    rw [resolveFrom, Except.ok.injEq, Prod.mk.injEq]
    constructor
    · rintro ⟨rfl, rfl⟩
      exact ⟨.here place, rfl⟩
    · rintro ⟨_ | _, rfl⟩
      exact ⟨rfl, rfl⟩
  | cons name pending ih =>
    rw [resolveFrom, h.step_eq]
    constructor
    · intro heq
      cases hplace : disk.entryAt? place with
      | none => simp [hplace] at heq
      | some e =>
        cases e with
        | file bytes => simp [hplace] at heq
        | link target => simp [hplace] at heq
        | directory es =>
          by_cases hup : name = ".."
          · simp only [hplace, hup, if_true, ih] at heq
            exact ⟨hup ▸ .up hplace heq.1, heq.2⟩
          by_cases hlong : nameLimit < name.utf8ByteSize
          · simp [hplace, hup, hlong] at heq
          cases hname : es.lookup name with
          | none =>
            cases pending with
            | nil =>
              simp only [hplace, hup, hlong, hname, if_false, Option.isSome_none, if_true,
                Except.ok.injEq, Prod.mk.injEq, Bool.false_eq_true] at heq
              exact ⟨heq.1 ▸ .free hplace hup hlong hname, heq.2.symm⟩
            | cons next pending => simp [hplace, hup, hlong, hname] at heq
          | some x =>
            simp only [hplace, hup, hlong, hname, if_false, Option.isSome_some, if_true, ih] at heq
            exact ⟨.down hplace hup hlong (by rw [hname]; rfl) heq.1, heq.2⟩
    · rintro ⟨hleads, rfl⟩
      cases hleads with
      | up here rest => simp [here, ih, rest]
      | down here down short found rest => simp [here, down, short, found, ih, rest]
      | free here down short free => simp [here, down, short, free]

theorem IsTree.resolve_eq_ok (h : disk.IsTree) {p : Path} : disk.resolve p = .ok t ↔
    pathFault? p = none ∧ disk.Leads (disk.start p) p.parts t := by
  rw [resolve]
  cases pathFault? p with
  | some cause => simp
  | none =>
    have hmap : ∀ x : Except OsError.Cause (Target × Nat),
        x.map Prod.fst = .ok t ↔ ∃ left, x = .ok (t, left) := by
      intro x
      cases x with
      | error cause => simp [Except.map]
      | ok found =>
        obtain ⟨u, left⟩ := found
        simp [Except.map]
    simp [hmap, h.resolveFrom_eq_ok]

namespace Leads

theorem append {ns ms : List String} {next : List String}
    (h : disk.Leads place ns (.present next)) (hrest : disk.Leads next ms t) :
    disk.Leads place (ns ++ ms) t := by
  generalize hu : Target.present next = u at h
  induction h with
  | here place =>
    cases hu
    exact hrest
  | up here rest ih => exact .up here (ih hu)
  | down here down short found rest ih => exact .down here down short found (ih hu)
  | free here down short free => cases hu

/-- What follows some names and then at least one other stands somewhere in between. -/
theorem exists_of_append {ns ms : List String} (h : disk.Leads place (ns ++ name :: ms) t) :
    ∃ next, disk.Leads place ns (.present next) ∧ disk.Leads next (name :: ms) t := by
  induction ns generalizing place with
  | nil => exact ⟨place, .here place, h⟩
  | cons n ns ih =>
    generalize hall : (n :: ns) ++ name :: ms = all at h
    cases h with
    | here => cases hall
    | up here rest =>
      obtain ⟨rfl, rfl⟩ := List.cons.inj hall
      obtain ⟨next, hns, hms⟩ := ih rest
      exact ⟨next, .up here hns, hms⟩
    | down here down short found rest =>
      obtain ⟨rfl, rfl⟩ := List.cons.inj hall
      obtain ⟨next, hns, hms⟩ := ih rest
      exact ⟨next, .down here down short found hns, hms⟩
    | free here down short free =>
      obtain ⟨rfl, hnil⟩ := List.cons.inj hall
      simp at hnil

/-- A path whose last name is that of no directory above leads to this name in a directory. -/
theorem exists_of_child {ns : List String} (h : disk.Leads place (ns ++ [name]) t)
    (hname : name ≠ "..") : ∃ parent es, disk.Leads place ns (.present parent) ∧
      disk.entryAt? parent = some (.directory es) ∧
      (t = .present (parent ++ [name]) ∧ (es.lookup name).isSome = true ∨
        t = .absent parent name ∧ es.lookup name = none) := by
  obtain ⟨parent, hparent, hlast⟩ := h.exists_of_append
  cases hlast with
  | up here rest => exact absurd rfl hname
  | down here down short found rest =>
    cases rest
    exact ⟨parent, _, hparent, here, .inl ⟨rfl, found⟩⟩
  | free here down short free => exact ⟨parent, _, hparent, here, .inr ⟨rfl, free⟩⟩

end Leads

/-- The names below a place lead to what stands there, unless one of them is too long. -/
theorem IsTree.resolveFrom_below (h : disk.IsTree) {names : List String}
    (he : disk.entryAt? (place ++ names) = some e) : disk.resolveFrom links place names =
      if names.any fun name => nameLimit < name.utf8ByteSize then .error .nameTooLong
      else .ok (.present (place ++ names), links) := by
  induction names generalizing place with
  | nil => simp [resolveFrom]
  | cons name names ih =>
    obtain ⟨es, hes⟩ := exists_directory_of_append he
    have hnext : place ++ name :: names = (place ++ [name]) ++ names := by simp
    obtain ⟨x, hx, -⟩ : ∃ x, disk.entryAt? (place ++ [name]) = some x ∧
        x.below? names = some e := by
      rw [hnext, entryAt?_append, Option.bind_eq_some_iff] at he
      exact he
    rw [entryAt?_child hes] at hx
    have hup : name ≠ ".." := (Entry.IsTree.of_below h hes).ne_up hx
    rw [resolveFrom, h.step_eq, hes]
    by_cases hlong : nameLimit < name.utf8ByteSize
    · simp [hup, hlong]
    · simp only [hup, hlong, hx, if_false, Option.isSome_some, if_true, hnext ▸ ih (hnext ▸ he),
        List.any_cons, decide_false, Bool.false_or]

theorem IsTree.resolveFrom_append (h : disk.IsTree) {ns : List String} {next : List String}
    (hns : disk.Leads place ns (.present next)) (ms : List String) :
    disk.resolveFrom links place (ns ++ ms) = disk.resolveFrom links next ms := by
  generalize hu : Target.present next = u at hns
  induction hns with
  | here place =>
    cases hu
    rfl
  | up here rest ih =>
    rw [List.cons_append, resolveFrom, h.step_eq, here]
    simp [ih hu]
  | down here down short found rest ih =>
    rw [List.cons_append, resolveFrom, h.step_eq, here]
    simp [down, short, found, ih hu]
  | free here down short free => cases hu

/-- A path that goes on below a place leads to what stands there, unless it is too long. -/
theorem IsTree.resolve_below (h : disk.IsTree) {p : Path}
    (hp : disk.resolve p = .ok (.present place)) {names : List String}
    (he : disk.entryAt? (place ++ names) = some e) :
    disk.resolve ⟨p.root, p.parts ++ names⟩ = match pathFault? ⟨p.root, p.parts ++ names⟩ with
      | some cause => .error cause
      | none =>
        if names.any fun name => nameLimit < name.utf8ByteSize then .error .nameTooLong
        else .ok (.present (place ++ names)) := by
  obtain ⟨-, hleads⟩ := h.resolve_eq_ok.1 hp
  have hfollow : disk.resolveFrom linkLimit (disk.start p) (p.parts ++ names) = _ :=
    (h.resolveFrom_append hleads names).trans (h.resolveFrom_below he)
  have hstart : disk.start ⟨p.root, p.parts ++ names⟩ = disk.start p := rfl
  rw [resolve, hstart]
  simp only [hfollow]
  cases pathFault? ⟨p.root, p.parts ++ names⟩ with
  | some cause => rfl
  | none =>
    simp only
    split_ifs <;> rfl

/-! ### Paths without links -/

/-- One name further on a way, without looking at the disk. -/
def climb (place : List String) (name : String) : List String :=
  if name = ".." then place.dropLast else place ++ [name]

theorem IsTree.realFrom_eq (h : disk.IsTree) : disk.realFrom links place pending =
    pending.foldl climb place := by
  induction pending generalizing place with
  | nil => rw [realFrom, List.foldl_nil]
  | cons name pending ih =>
    rw [realFrom, h.step_eq, List.foldl_cons, climb]
    cases disk.entryAt? place with
    | none => simp [ih]
    | some e =>
      cases e with
      | file bytes => simp [ih]
      | link target => simp [ih]
      | directory es =>
        by_cases hup : name = ".."
        · simp [hup, ih]
        by_cases hlong : nameLimit < name.utf8ByteSize
        · simp [hup, hlong, ih]
        cases hname : es.lookup name <;> simp [hup, hlong, hname, ih]

/-! ### Looking at what stands at a path -/

theorem entry_eq_ok {p : Path} : disk.entry p = .ok e ↔
    ∃ place, disk.resolve p = .ok (.present place) ∧ disk.entryAt? place = some e := by
  rw [entry]
  cases disk.resolve p with
  | error cause => simp
  | ok t =>
    cases t with
    | absent parent name => simp
    | present place =>
      cases hplace : disk.entryAt? place with
      | none => simp [hplace]
      | some x => simp [hplace]

theorem IsTree.entry_of_place (h : disk.IsTree) (he : disk.entryAt? place = some e) :
    disk.entry ⟨.slash, place⟩ = match pathFault? ⟨.slash, place⟩ with
      | some cause => .error ⟨cause, ⟨.slash, place⟩⟩
      | none =>
        if place.any fun name => nameLimit < name.utf8ByteSize then
          .error ⟨.nameTooLong, ⟨.slash, place⟩⟩
        else .ok e := by
  have htop : disk.resolve ⟨.slash, []⟩ = .ok (.present []) :=
    h.resolve_eq_ok.2 ⟨by decide, .here []⟩
  have hresolve := h.resolve_below htop (show disk.entryAt? ([] ++ place) = some e from he)
  simp only [List.nil_append] at hresolve
  rw [entry, hresolve]
  cases pathFault? ⟨.slash, place⟩ with
  | some cause => rfl
  | none =>
    by_cases hlong : (place.any fun name => nameLimit < name.utf8ByteSize) = true
    · simp only [hlong, if_true]
    · simp only [hlong, if_false, he, Bool.false_eq_true]

theorem IsTree.entry_eq_ok_of_place (h : disk.IsTree) (he : disk.entryAt? place = some e)
    (hfault : pathFault? ⟨.slash, place⟩ = none)
    (hshort : (place.any fun name => nameLimit < name.utf8ByteSize) = false) :
    disk.entry ⟨.slash, place⟩ = .ok e := by
  rw [h.entry_of_place he, hfault, hshort]
  rfl

theorem isDirectory_iff {p : Path} : disk.isDirectory p = true ↔
    ∃ es, disk.entry p = .ok (.directory es) := by
  rw [isDirectory]
  split
  · rename_i es hes
    simp [hes]
  · rename_i hnot
    simp only [Bool.false_eq_true, false_iff, not_exists]
    exact hnot

theorem directoryPlace_eq_ok {p : Path} : disk.directoryPlace p = .ok place ↔
    disk.resolve p = .ok (.present place) ∧ ∃ es, disk.entryAt? place = some (.directory es) := by
  rw [directoryPlace]
  cases disk.resolve p with
  | error cause => simp
  | ok t =>
    cases t with
    | absent parent name => simp
    | present next =>
      simp only [Except.ok.injEq, Target.present.injEq]
      split
      · rename_i es hes
        constructor
        · rintro h
          cases h
          exact ⟨rfl, es, hes⟩
        · rintro ⟨rfl, -⟩
          rfl
      · rename_i hnot
        constructor
        · nofun
        · rintro ⟨rfl, es, hes⟩
          exact absurd hes (hnot es)

/-! ### Growing disks -/

/-- What stands somewhere keeps standing there: directories stay directories, and files files. -/
structure Grows (disk grown : Disk) : Prop where
  workingDirectory : grown.workingDirectory = disk.workingDirectory
  directory : ∀ {place es}, disk.entryAt? place = some (.directory es) →
    ∃ es', grown.entryAt? place = some (.directory es')
  file : ∀ {place bytes}, disk.entryAt? place = some (.file bytes) →
    ∃ bytes', grown.entryAt? place = some (.file bytes')

namespace Grows

theorem refl (disk : Disk) : Grows disk disk := ⟨rfl, fun h => ⟨_, h⟩, fun h => ⟨_, h⟩⟩

theorem trans {last : Disk} (h : Grows disk grown) (h' : Grows grown last) : Grows disk last where
  workingDirectory := h'.workingDirectory.trans h.workingDirectory
  directory he := (h.directory he).elim fun _ he => h'.directory he
  file he := (h.file he).elim fun _ he => h'.file he

theorem start (h : Grows disk grown) (p : Path) : grown.start p = disk.start p := by
  rw [Disk.start, Disk.start, h.workingDirectory]

theorem isSome (h : Grows disk grown) (htree : disk.IsTree)
    (he : (disk.entryAt? place).isSome = true) : (grown.entryAt? place).isSome = true := by
  obtain ⟨e, he⟩ := Option.isSome_iff_exists.1 he
  have hetree : e.IsTree := Entry.IsTree.of_below htree he
  cases hetree with
  | file bytes =>
    obtain ⟨bytes', h'⟩ := h.file he
    rw [h']
    rfl
  | directory names up trees =>
    obtain ⟨es', h'⟩ := h.directory he
    rw [h']
    rfl

/-- **Paths of growing disks**: a path that led to something leads to the same place, and one that
led to a free name leads there as soon as something has that name. -/
theorem leads (h : Grows disk grown) (htree : disk.IsTree) (hleads : disk.Leads place pending t)
    (ht : t = .present t.place ∨ (grown.entryAt? t.place).isSome = true) :
    grown.Leads place pending (.present t.place) := by
  induction hleads with
  | here place => exact .here place
  | up here rest ih =>
    obtain ⟨es', here'⟩ := h.directory here
    exact .up here' (ih ht)
  | @down place es name pending t here down short found rest ih =>
    obtain ⟨es', here'⟩ := h.directory here
    refine .down here' down short ?_ (ih ht)
    rw [← entryAt?_child here']
    refine h.isSome htree ?_
    rw [entryAt?_child here]
    exact found
  | @free place es name here down short free =>
    obtain ⟨es', here'⟩ := h.directory here
    have hsome := ht.resolve_left nofun
    rw [Target.place, entryAt?_child here'] at hsome
    exact .down here' down short hsome (.here _)

theorem resolve (h : Grows disk grown) (htree : disk.IsTree) (hgrown : grown.IsTree) {p : Path}
    (hp : disk.resolve p = .ok t)
    (ht : t = .present t.place ∨ (grown.entryAt? t.place).isSome = true) :
    grown.resolve p = .ok (.present t.place) := by
  obtain ⟨hfault, hleads⟩ := htree.resolve_eq_ok.1 hp
  rw [hgrown.resolve_eq_ok, h.start]
  exact ⟨hfault, h.leads htree hleads ht⟩

theorem isDirectory (h : Grows disk grown) (htree : disk.IsTree) (hgrown : grown.IsTree) {p : Path}
    (hp : disk.isDirectory p = true) : grown.isDirectory p = true := by
  obtain ⟨es, hes⟩ := isDirectory_iff.1 hp
  obtain ⟨place, hresolve, hplace⟩ := entry_eq_ok.1 hes
  obtain ⟨es', hplace'⟩ := h.directory hplace
  exact isDirectory_iff.2 ⟨es', entry_eq_ok.2
    ⟨place, h.resolve htree hgrown hresolve (.inl rfl), hplace'⟩⟩

theorem realPath (h : Grows disk grown) (htree : disk.IsTree) (hgrown : grown.IsTree) (p : Path) :
    grown.realPath p = disk.realPath p := by
  rw [Disk.realPath, Disk.realPath, htree.realFrom_eq, hgrown.realFrom_eq, h.start]

end Grows

end Disk

end Disposal
