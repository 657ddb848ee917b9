import Disposal.Proofs.Changing

/-!
# Storing sources on trees

Making directories and writing generated sources changes a disk without links by `Disk.Adds` only.
Doing the same once more changes nothing: the directories are there, and every file holds what was
written last at its place.

* `Disk.IsTree.makeDirectory_extends` and `Disk.IsTree.makeDirectory_eq` are about making
  directories for the first time and again;
* `Disk.IsTree.write_adds` is about writing a source;
* `Entry.fillAll` writes files again that are there, and `Entry.fillAll_eq_self` says when this is
  no change;
* `Disk.IsTree.writeAll_again` puts these together.
-/

namespace Disposal

/-! ### Making directories -/

namespace Disk

variable {disk after : Disk} {p : Path} {place parent : List String} {name : String} {e : Entry}
  {es : Directory}

/-- A disk with more directories, on which all files are as they were. -/
structure Extends (disk after : Disk) : Prop extends Preserves disk after where
  files : ∀ {place bytes}, disk.entryAt? place = some (.file bytes) →
    after.entryAt? place = some (.file bytes)

theorem Extends.refl (h : disk.IsTree) : Extends disk disk := ⟨.refl h, id⟩

theorem Extends.trans {last : Disk} (h : Extends disk after) (h' : Extends after last) :
    Extends disk last :=
  ⟨h.toPreserves.trans h'.toPreserves, fun hfile => h'.files (h.files hfile)⟩

theorem parts_eq_append (h : p.parts.getLast? = some name) :
    p.parts = p.parent.parts ++ [name] := by
  obtain ⟨ns, hns⟩ := List.getLast?_eq_some_iff.1 h
  rw [Path.parent, hns, List.dropLast_concat]

/-- What making one directory meets: a directory above with a free name, something under the name,
or a fault. -/
theorem IsTree.makeOne_cases (htree : disk.IsTree) (p : Path) :
    (∃ parent es name, p.parts = p.parent.parts ++ [name] ∧ pathFault? p = none ∧
      disk.resolve p.parent = .ok (.present parent) ∧
      disk.entryAt? parent = some (.directory es) ∧ name ≠ ".." ∧
      ¬ nameLimit < name.utf8ByteSize ∧ es.lookup name = none ∧
      disk.makeOne p = .ok (disk.put parent name (.directory []))) ∨
    ∃ e, disk.makeOne p = .error e := by
  rw [makeOne]
  cases hfault : pathFault? p with
  | some cause => exact .inr ⟨_, rfl⟩
  | none =>
    cases hparent : disk.directoryPlace p.parent with
    | error cause => exact .inr ⟨_, rfl⟩
    | ok parent =>
      cases hlast : p.parts.getLast? with
      | none => exact .inr ⟨_, rfl⟩
      | some name =>
        obtain ⟨hresolve, es, hes⟩ := directoryPlace_eq_ok.1 hparent
        simp only [htree.step_eq, hes]
        by_cases hup : name = ".."
        · exact .inr ⟨_, by rw [if_pos hup]⟩
        by_cases hlong : nameLimit < name.utf8ByteSize
        · exact .inr ⟨_, by rw [if_neg hup, if_pos hlong]⟩
        cases hlookup : es.lookup name with
        | some x =>
          refine .inr ⟨⟨.alreadyExists, p⟩, ?_⟩
          simp [hup, hlong]
        | none =>
          refine .inl ⟨parent, es, name, parts_eq_append hlast, trivial, hresolve, hes, hup, hlong,
            hlookup, ?_⟩
          simp [hup, hlong]

theorem IsTree.makeOne_extends (htree : disk.IsTree) (h : disk.makeOne p = .ok after) :
    Extends disk after ∧ after.isDirectory p = true := by
  rcases htree.makeOne_cases p with
    ⟨parent, es, name, hparts, hfault, hresolve, hes, hup, hshort, hfree, hmade⟩ | ⟨e, hmade⟩
  · obtain rfl : disk.put parent name (.directory []) = after :=
      Except.ok.inj (hmade.symm.trans h)
    have hadds : disk.Adds parent name (.directory []) := .directory hes hfree
    have hpreserves := hadds.preserves htree hup
    refine ⟨⟨hpreserves, fun {place bytes} hfile => hadds.file_eq hfile ?_⟩, ?_⟩
    · rintro rfl
      rw [entryAt?_child hes, hfree] at hfile
      cases hfile
    · -- the path led to the free name, and now leads to the new directory
      obtain ⟨-, hleads⟩ := htree.resolve_eq_ok.1 hresolve
      have hfreepath : disk.resolve p = .ok (.absent parent name) := by
        rw [htree.resolve_eq_ok, hparts]
        exact ⟨hfault, hleads.append (.free hes hup hshort hfree)⟩
      have hself := entryAt?_put_self hes name (.directory [])
      have hpath := hpreserves.toGrows.resolve htree hpreserves.tree hfreepath
        (.inr (by rw [Target.place, hself]; rfl))
      exact isDirectory_iff.2 ⟨[], entry_eq_ok.2 ⟨_, hpath, hself⟩⟩
  · rw [hmade] at h
    cases h

theorem pathFault?_ne {cause : OsError.Cause} (h : pathFault? p = some cause) :
    cause ≠ .notFound := by
  rw [pathFault?] at h
  split_ifs at h <;> cases h <;> decide

theorem IsTree.directoryPlace_parent (htree : disk.IsTree) (h : disk.isDirectory p = true)
    {cause : OsError.Cause} (hparent : disk.directoryPlace p.parent = .error cause) :
    cause ≠ .notFound := by
  obtain ⟨es, hes⟩ := isDirectory_iff.1 h
  obtain ⟨place, hplace, hes⟩ := entry_eq_ok.1 hes
  obtain ⟨-, hleads⟩ := htree.resolve_eq_ok.1 hplace
  obtain ⟨next, hnext, sub, hsub⟩ : ∃ next,
      disk.Leads (disk.start p) p.parent.parts (.present next) ∧
      ∃ sub, disk.entryAt? next = some (.directory sub) := by
    obtain hnil | ⟨ns, name, hparts⟩ := List.eq_nil_or_concat' p.parts
    · have hsame : p.parent.parts = p.parts := by rw [Path.parent, hnil, List.dropLast_nil]
      exact ⟨place, hsame ▸ hleads, es, hes⟩
    · have hinit : p.parent.parts = ns := by rw [Path.parent, hparts, List.dropLast_concat]
      rw [hparts] at hleads
      obtain ⟨next, hnext, hlast⟩ := hleads.exists_of_append
      refine ⟨next, hinit ▸ hnext, ?_⟩
      cases hlast with
      | up here rest => exact ⟨_, here⟩
      | down here down short found rest => exact ⟨_, here⟩
  cases hfault : pathFault? p.parent with
  | some fault =>
    rw [directoryPlace, resolve, hfault] at hparent
    obtain rfl : fault = cause := Except.error.inj hparent
    exact pathFault?_ne hfault
  | none =>
    have hresolve : disk.resolve p.parent = .ok (.present next) :=
      htree.resolve_eq_ok.2 ⟨hfault, hnext⟩
    rw [directoryPlace_eq_ok.2 ⟨hresolve, sub, hsub⟩] at hparent
    cases hparent

/-- Where a directory is, making it fails for another reason than that one above is missing. -/
theorem IsTree.makeOne_of_isDirectory (htree : disk.IsTree) (h : disk.isDirectory p = true) :
    ∃ e, disk.makeOne p = .error e ∧ e.cause ≠ .notFound := by
  obtain ⟨es, hes⟩ := isDirectory_iff.1 h
  obtain ⟨place, hplace, -⟩ := entry_eq_ok.1 hes
  obtain ⟨hfault, -⟩ := htree.resolve_eq_ok.1 hplace
  rcases htree.makeOne_cases p with
    ⟨parent, sub, name, hparts, -, hparent, hsub, hup, hshort, hfree, -⟩ | ⟨e, hmade⟩
  · -- the path of a directory does not lead to a free name
    obtain ⟨-, hleads⟩ := htree.resolve_eq_ok.1 hparent
    have hfreepath : disk.resolve p = .ok (.absent parent name) := by
      rw [htree.resolve_eq_ok, hparts]
      exact ⟨hfault, hleads.append (.free hsub hup hshort hfree)⟩
    cases hplace.symm.trans hfreepath
  · refine ⟨e, hmade, ?_⟩
    rw [makeOne, hfault] at hmade
    cases hparent : disk.directoryPlace p.parent with
    | error cause =>
      rw [hparent] at hmade
      obtain rfl : OsError.mk cause p = e := Except.error.inj hmade
      exact htree.directoryPlace_parent h hparent
    | ok parent =>
      obtain ⟨-, sub, hsub⟩ := directoryPlace_eq_ok.1 hparent
      simp only [hparent, htree.step_eq, hsub] at hmade
      split at hmade
      · cases hmade
        nofun
      · split at hmade
        · cases hmade
        · rename_i cause hcause
          split_ifs at hcause
          cases hcause
          cases hmade
          nofun
        · cases hmade
          nofun

theorem IsTree.makeUnlessThere_extends (htree : disk.IsTree)
    (h : disk.makeUnlessThere p = .ok after) :
    Extends disk after ∧ after.isDirectory p = true := by
  rw [makeUnlessThere] at h
  cases hmade : disk.makeOne p with
  | ok made =>
    rw [hmade] at h
    obtain rfl : made = after := Except.ok.inj h
    exact htree.makeOne_extends hmade
  | error e =>
    simp only [hmade] at h
    split_ifs at h with hthere
    obtain rfl : disk = after := Except.ok.inj h
    exact ⟨.refl htree, hthere.2⟩

theorem IsTree.makeAll_extends (htree : disk.IsTree) {depth : Nat}
    (h : makeAll depth disk p = .ok after) : Extends disk after ∧ after.isDirectory p = true := by
  induction depth generalizing p after with
  | zero =>
    rw [makeAll] at h
    exact htree.makeUnlessThere_extends h
  | succ depth ih =>
    rw [makeAll] at h
    cases hmade : disk.makeOne p with
    | ok made =>
      rw [hmade] at h
      obtain rfl : made = after := Except.ok.inj h
      exact htree.makeOne_extends hmade
    | error e =>
      simp only [hmade] at h
      split_ifs at h with hmissing hthere
      · cases habove : makeAll depth disk p.parent with
        | error e => simp [habove] at h
        | ok above =>
          simp only [habove] at h
          obtain ⟨hextends, -⟩ := ih habove
          obtain ⟨hmore, hdirectory⟩ := hextends.tree.makeUnlessThere_extends h
          exact ⟨hextends.trans hmore, hdirectory⟩
      · obtain rfl : disk = after := Except.ok.inj h
        exact ⟨.refl htree, hthere⟩

/-- **Making a directory and those around it** changes nothing else. -/
theorem IsTree.makeDirectory_extends (htree : disk.IsTree) (h : disk.makeDirectory p = .ok after) :
    Extends disk after ∧ after.isDirectory p = true :=
  htree.makeAll_extends h

theorem IsTree.makeDirectory_eq (htree : disk.IsTree) (h : disk.isDirectory p = true) :
    disk.makeDirectory p = .ok disk := by
  obtain ⟨e, hmade, hcause⟩ := htree.makeOne_of_isDirectory h
  rw [makeDirectory]
  cases p.parts.length with
  | zero => simp [makeAll, makeUnlessThere, hmade, hcause, h]
  | succ depth => simp [makeAll, hmade, hcause, h]

/-! ### Writing a source -/

/-- A path that ends with the name of a generated source. -/
def IsGeneratedPath (p : Path) : Prop :=
  ∃ ns name, p.parts = ns ++ [name] ∧ name ≠ ".." ∧
    Search.isGenerated ⟨.relative, [name]⟩ = true

/-- **Writing a generated source** puts it into a directory, under the last name of its path; the
path leads there afterwards. -/
theorem IsTree.write_adds (htree : disk.IsTree) (hp : IsGeneratedPath p) {bytes : Text.Bytes}
    (h : disk.write p bytes = .ok after) : ∃ parent name,
      Search.isGenerated ⟨.relative, [name]⟩ = true ∧ name ≠ ".." ∧
      disk.Adds parent name (.file bytes) ∧ after = disk.put parent name (.file bytes) ∧
      after.resolve p = .ok (.present (parent ++ [name])) := by
  obtain ⟨ns, name, hparts, hup, hgenerated⟩ := hp
  cases ht : disk.resolve p with
  | error cause =>
    rw [write, ht] at h
    cases h
  | ok t =>
    obtain ⟨-, hleads⟩ := htree.resolve_eq_ok.1 ht
    rw [hparts] at hleads
    obtain ⟨parent, es, -, hes, hcase⟩ := hleads.exists_of_child hup
    have hplace : t.place = parent ++ [name] := by
      rcases hcase with ⟨rfl, -⟩ | ⟨rfl, -⟩ <;> rfl
    obtain ⟨hold, hput⟩ : (∀ e, es.lookup name = some e → ∃ bytes, e = .file bytes) ∧
        after = disk.put parent name (.file bytes) := by
      rw [write, ht] at h
      rcases hcase with ⟨rfl, hfound⟩ | ⟨rfl, hfree⟩
      · obtain ⟨old, hold⟩ := Option.isSome_iff_exists.1 hfound
        simp only [entryAt?_child hes, hold, List.getLast?_concat, List.dropLast_concat] at h
        cases old with
        | file was =>
          refine ⟨fun e he => ⟨was, ?_⟩, (Except.ok.inj h).symm⟩
          exact Option.some.inj (he.symm.trans hold)
        | directory sub => cases h
        | link target => cases h
      · refine ⟨fun e he => ?_, (Except.ok.inj h).symm⟩
        rw [hfree] at he
        cases he
    have hadds : disk.Adds parent name (.file bytes) := .file hes hold hgenerated bytes
    have hpreserves := hadds.preserves htree hup
    have hself := entryAt?_put_self hes name (.file bytes)
    refine ⟨parent, name, hgenerated, hup, hadds, hput, ?_⟩
    rw [hput, ← hplace]
    refine hpreserves.toGrows.resolve htree hpreserves.tree ht (.inr ?_)
    rw [hplace, hself]
    rfl

theorem write_of_present (hp : disk.resolve p = .ok (.present (parent ++ [name])))
    {old : Text.Bytes} (hfile : disk.entryAt? (parent ++ [name]) = some (.file old))
    (bytes : Text.Bytes) : disk.write p bytes = .ok (disk.put parent name (.file bytes)) := by
  rw [write, hp]
  simp only [hfile, List.getLast?_concat, List.dropLast_concat]

end Disk

/-! ### Writing files again -/

namespace Entry

variable {p q : List String} {e : Entry} {writes : List (List String × Text.Bytes)}

/-- Give a file other bytes. -/
def fill (bytes : Text.Bytes) : Entry → Entry
  | .file _ => .file bytes
  | e => e

theorem fill_comp_fill (a b : Text.Bytes) : fill a ∘ fill b = fill a := by
  funext e
  cases e <;> rfl

theorem alter_fill_comm (h : p ≠ q) (a b : Text.Bytes) (e : Entry) :
    (e.alter p (fill a)).alter q (fill b) = (e.alter q (fill b)).alter p (fill a) := by
  induction p generalizing q e with
  | nil =>
    cases q with
    | nil => exact absurd rfl h
    | cons m q => cases e <;> simp [fill]
  | cons n p ih =>
    cases q with
    | nil => cases e <;> simp [fill]
    | cons m q =>
      cases e with
      | file bytes => simp
      | link target => simp
      | directory es =>
        simp only [alter_directory]
        congr 1
        by_cases hname : n = m
        · subst hname
          have hpq : p ≠ q := fun heq => h (by rw [heq])
          have hcomm : alter q (fill b) ∘ alter p (fill a) = alter p (fill a) ∘ alter q (fill b) :=
            funext fun e => ih hpq e
          rw [Directory.alterName_alterName, Directory.alterName_alterName, hcomm]
        · exact Directory.alterName_comm (Ne.symm hname) _ _ _

/-- Fill files one after the other. -/
def fillAll (writes : List (List String × Text.Bytes)) (e : Entry) : Entry :=
  writes.foldl (fun e w => e.alter w.1 (fill w.2)) e

theorem fillAll_alter (h : q ∈ writes.map Prod.fst) (bytes : Text.Bytes) (e : Entry) :
    fillAll writes (e.alter q (fill bytes)) = fillAll writes e := by
  induction writes generalizing e with
  | nil => cases h
  | cons w writes ih =>
    have hcons : ∀ e, fillAll (w :: writes) e = fillAll writes (e.alter w.1 (fill w.2)) :=
      fun _ => rfl
    rw [hcons, hcons]
    by_cases hq : q = w.1
    · rw [hq, alter_alter, fill_comp_fill]
    · rw [alter_fill_comm hq]
      exact ih ((List.mem_cons.1 h).resolve_left hq) _

/-- At every place stands what is written there last. -/
def Holds (e : Entry) : List (List String × Text.Bytes) → Prop
  | [] => True
  | (q, bytes) :: writes =>
    (q ∉ writes.map Prod.fst → e.below? q = some (.file bytes)) ∧ Holds e writes

/-- **Writing files again** is no change where what was written last stands already. -/
theorem fillAll_eq_self (htree : e.IsTree) (h : e.Holds writes) : fillAll writes e = e := by
  induction writes with
  | nil => rfl
  | cons w writes ih =>
    obtain ⟨q, bytes⟩ := w
    obtain ⟨hlast, hrest⟩ := h
    have hcons : fillAll ((q, bytes) :: writes) e = fillAll writes (e.alter q (fill bytes)) := rfl
    rw [hcons]
    by_cases hq : q ∈ writes.map Prod.fst
    · rw [fillAll_alter hq, ih hrest]
    · rw [htree.alter_eq_self fun x hx => ?_, ih hrest]
      rw [hlast hq, Option.some.injEq] at hx
      rw [← hx, fill]

theorem alter_put_eq (htree : e.IsTree) {parent : List String} {name : String}
    {old : Text.Bytes} (hold : e.below? (parent ++ [name]) = some (.file old))
    (bytes : Text.Bytes) : e.alter parent (put name (.file bytes)) =
      e.alter (parent ++ [name]) (fill bytes) := by
  rw [alter_append]
  refine htree.alter_congr ?_
  intro x hx
  rw [below?_append, hx, Option.bind_some] at hold
  cases x with
  | file was => simp at hold
  | link target => simp at hold
  | directory es =>
    rw [below?_directory, Option.bind_eq_some_iff] at hold
    obtain ⟨y, hy, hold⟩ := hold
    rw [below?_nil, Option.some.injEq] at hold
    have hnames := (htree.of_below hx).nodup
    rw [put, alter_directory, Directory.put_eq_alterName hnames
      (List.mem_map_of_mem (Assoc.mem_of_lookup hy)), Directory.alterName_congr hnames]
    intro z hz
    obtain rfl : z = .file old := by
      rw [← hold]
      exact Option.some.inj (hz.symm.trans hy)
    rw [alter_nil, fill]

end Entry

/-! ### Storing sources -/

namespace Disk

variable {disk after : Disk} {root : Path} {artifacts : List (String × String)}
  {writes : List (List String × Text.Bytes)} {written : List Path}

/-- A source of some artifacts is stored on a disk: its path leads to a file, which has the name of
a generated source. -/
structure StoredAt (disk : Disk) (root : Path) (a : String × String)
    (w : List String × Text.Bytes) : Prop where
  bytes : w.2 = Text.encode a.2
  path : disk.resolve (root.join (.ofString a.1)) = .ok (.present w.1)
  name : ∃ parent name, w.1 = parent ++ [name] ∧
    Search.isGenerated ⟨.relative, [name]⟩ = true
  file : ∃ old, disk.entryAt? w.1 = some (.file old)

theorem StoredAt.of_grows {a : String × String} {w : List String × Text.Bytes}
    (h : disk.StoredAt root a w) (htree : disk.IsTree) (hafter : after.IsTree)
    (hgrows : Grows disk after) : after.StoredAt root a w where
  bytes := h.bytes
  path := hgrows.resolve htree hafter h.path (.inl rfl)
  name := h.name
  file := h.file.elim fun _ hfile => hgrows.file hfile

/-- **Storing sources** for the first time: their paths lead to files that hold what is written
there last, and no other file is changed. -/
theorem IsTree.writeAll_stores (htree : disk.IsTree)
    (hpaths : ∀ a ∈ artifacts, IsGeneratedPath (root.join (.ofString a.1)))
    (h : disk.writeAll root artifacts = (after, written, none)) :
    Preserves disk after ∧ (artifacts ≠ [] → after.isDirectory root = true) ∧
      written = artifacts.map (fun a => root.join (.ofString a.1)) ∧
      ∃ writes, List.Forall₂ (after.StoredAt root) artifacts writes ∧
        (Entry.directory after.root).Holds writes ∧
        ∀ {place bytes}, disk.entryAt? place = some (.file bytes) →
          place ∉ writes.map Prod.fst → after.entryAt? place = some (.file bytes) := by
  induction artifacts generalizing disk written with
  | nil =>
    rw [writeAll] at h
    obtain ⟨rfl, hwritten⟩ := Prod.mk.inj h
    obtain ⟨rfl, -⟩ := Prod.mk.inj hwritten
    exact ⟨.refl htree, fun hne => absurd rfl hne, rfl, [], .nil, trivial, fun hfile _ => hfile⟩
  | cons a artifacts ih =>
    obtain ⟨key, text⟩ := a
    rw [writeAll] at h
    cases hmade : disk.makeDirectory root with
    | error e => simp [hmade] at h
    | ok made =>
      simp only [hmade] at h
      cases hwrote : made.write (root.join (.ofString key)) (Text.encode text) with
      | error e => simp [hwrote] at h
      | ok wrote =>
        simp only [hwrote] at h
        obtain ⟨hextends, hdirectory⟩ := htree.makeDirectory_extends hmade
        obtain ⟨parent, name, hgenerated, hup, hadds, hput, hpath⟩ :=
          hextends.tree.write_adds (hpaths _ List.mem_cons_self) hwrote
        have hwrites : Preserves made wrote := hput ▸ hadds.preserves hextends.tree hup
        have hself : wrote.entryAt? (parent ++ [name]) = some (.file (Text.encode text)) := by
          obtain ⟨es, hes, -⟩ := hadds.here
          rw [hput, entryAt?_put_self hes]
        rcases hrest : wrote.writeAll root artifacts with ⟨last, behind, failure⟩
        rw [hrest] at h
        obtain ⟨rfl, hwritten⟩ := Prod.mk.inj h
        obtain ⟨rfl, rfl⟩ := Prod.mk.inj hwritten
        obtain ⟨hlast, -, rfl, writes, hstored, hholds, hfiles⟩ := ih hwrites.tree
          (fun a ha => hpaths a (List.mem_cons_of_mem _ ha)) hrest
        obtain ⟨old, hold⟩ := hlast.file hself
        refine ⟨hextends.toPreserves.trans (hwrites.trans hlast), fun _ => ?_, rfl,
          (parent ++ [name], Text.encode text) :: writes, .cons ?_ hstored, ⟨?_, hholds⟩, ?_⟩
        · have hthere := hwrites.toGrows.isDirectory hextends.tree hwrites.tree hdirectory
          exact hlast.toGrows.isDirectory hwrites.tree hlast.tree hthere
        · exact ⟨rfl, hlast.toGrows.resolve hwrites.tree hlast.tree hpath (.inl rfl),
            ⟨parent, name, rfl, hgenerated⟩, old, hold⟩
        · exact fun hlater => hfiles hself hlater
        · intro place bytes hfile hplace
          rw [List.map_cons, List.mem_cons, not_or] at hplace
          refine hfiles ?_ hplace.2
          rw [hput]
          exact hadds.file_eq (hextends.files hfile) hplace.1

/-- **Storing sources again** where they are stored fills their files one after the other. -/
theorem IsTree.writeAll_fills (htree : disk.IsTree)
    (hroot : artifacts ≠ [] → disk.isDirectory root = true)
    (h : List.Forall₂ (disk.StoredAt root) artifacts writes) :
    ∃ last, disk.writeAll root artifacts =
        (last, artifacts.map (fun a => root.join (.ofString a.1)), none) ∧
      Entry.directory last.root = Entry.fillAll writes (.directory disk.root) ∧
      last.workingDirectory = disk.workingDirectory := by
  induction artifacts generalizing disk writes with
  | nil =>
    cases h
    exact ⟨disk, rfl, rfl, rfl⟩
  | cons a artifacts ih =>
    obtain ⟨key, text⟩ := a
    rcases h with _ | ⟨hstored, hrest⟩
    rename_i w writes
    obtain ⟨place, bytes⟩ := w
    obtain ⟨rfl, hpath, ⟨parent, name, rfl, hgenerated⟩, old, hold⟩ := hstored
    simp only at hpath hold
    -- the file is replaced, and the disk with the new one is like the one before
    obtain ⟨es, hes⟩ := exists_directory_of_append hold
    have hlookup : es.lookup name = some (.file old) := by rw [← entryAt?_child hes, hold]
    have hadds : disk.Adds parent name (.file (Text.encode text)) := by
      refine .file hes (fun e he => ⟨old, ?_⟩) hgenerated _
      exact Option.some.inj (he.symm.trans hlookup)
    have hup : name ≠ ".." := (Entry.IsTree.of_below htree hes).ne_up hlookup
    have hput := hadds.preserves htree hup
    have hthere := hroot (List.cons_ne_nil _ _)
    obtain ⟨last, hlast, hfilled, hworking⟩ := ih hput.tree
      (fun _ => hput.toGrows.isDirectory htree hput.tree hthere)
      (hrest.imp fun a w hstored => hstored.of_grows htree hput.tree hput.toGrows)
    refine ⟨last, ?_, ?_, hworking⟩
    · rw [writeAll, htree.makeDirectory_eq hthere]
      simp only [write_of_present hpath hold, hlast, List.map_cons]
    · rw [hfilled, directory_put, Entry.alter_put_eq htree hold]
      rfl

theorem StoredAt.of_relists {other : Disk} {a : String × String} {w : List String × Text.Bytes}
    (h : disk.StoredAt root a w) (hrelists : disk.Relists other) : other.StoredAt root a w where
  bytes := h.bytes
  path := (hrelists.resolve_eq _).trans h.path
  name := h.name
  file := h.file.imp fun _ hfile => hrelists.file hfile

theorem Relists.holds {other : Disk} (h : disk.Relists other)
    (hholds : (Entry.directory disk.root).Holds writes) :
    (Entry.directory other.root).Holds writes := by
  induction writes with
  | nil => exact trivial
  | cons w writes ih => exact ⟨fun hlast => h.file (hholds.1 hlast), ih hholds.2⟩

/-- **Storing sources is idempotent**: when they are all stored, storing them once more is no change
to the disk and gives the same paths, in whatever order its directories are listed by then. -/
theorem IsTree.writeAll_again (htree : disk.IsTree)
    (hpaths : ∀ a ∈ artifacts, IsGeneratedPath (root.join (.ofString a.1)))
    (h : disk.writeAll root artifacts = (after, written, none)) :
    Preserves disk after ∧ ∀ again : Disk, again.IsTree → after.Relists again →
      again.writeAll root artifacts = (again, written, none) := by
  obtain ⟨hpreserves, hroot, rfl, writes, hstored, hholds, -⟩ := htree.writeAll_stores hpaths h
  refine ⟨hpreserves, fun again hagain hrelists => ?_⟩
  obtain ⟨last, hlast, hfilled, hworking⟩ := hagain.writeAll_fills
    (fun hne => (hrelists.isDirectory_eq root).trans (hroot hne))
    (hstored.imp fun a w hw => hw.of_relists hrelists)
  rw [Entry.fillAll_eq_self hagain (hrelists.holds hholds), Entry.directory.injEq] at hfilled
  obtain rfl : last = again := by
    cases last
    cases again
    cases hfilled
    cases hworking
    rfl
  exact hlast

end Disk

end Disposal
