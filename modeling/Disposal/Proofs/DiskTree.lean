import Disposal.Disk.Write
import Disposal.Proofs.Assoc
import Mathlib.Data.List.Infix
import Mathlib.Data.List.Nodup

/-!
# Directory trees

A disk without links is a tree: names are distinct in every directory, and a place in it is a list
of names.  Everything that writes to a disk alters the entry at one place.

* `Entry.IsTree` are the trees, `Disk.IsTree` the disks without links; in `Entry.DistinctNames` and
  `Disk.DistinctNames` there may be links;
* `Entry.alter` alters the entry at a place; its lemmas say what is found below other places, and
  when two alterations are the same;
* `Disk.entryAt?_put_cases` says where putting an entry into a directory can be seen.
-/

namespace Disposal

/-! ### Directories -/

namespace Directory

variable {name other : String} {e : Entry} {es : Directory}

/-- Alter what stands under a name. -/
def alterName (name : String) (f : Entry → Entry) (es : Directory) : Directory :=
  es.map fun entry => (entry.1, if entry.1 = name then f entry.2 else entry.2)

@[simp] theorem keys_alterName (name : String) (f : Entry → Entry) (es : Directory) :
    (alterName name f es).map Prod.fst = es.map Prod.fst := by
  rw [alterName, List.map_map]
  rfl

theorem lookup_alterName (name : String) (f : Entry → Entry) (es : Directory) (other : String) :
    (alterName name f es).lookup other =
      (es.lookup other).map fun e => if other = name then f e else e := by
  induction es with
  | nil => rfl
  | cons entry es ih =>
    obtain ⟨n, e⟩ := entry
    by_cases hn : other = n
    · subst hn; simp [alterName]
    · rw [Assoc.lookup_cons_of_ne hn, ← ih]
      exact Assoc.lookup_cons_of_ne hn

theorem alterName_alterName (name : String) (f g : Entry → Entry) (es : Directory) :
    alterName name f (alterName name g es) = alterName name (f ∘ g) es := by
  rw [alterName, alterName, alterName, List.map_map]
  refine List.map_congr_left fun entry _ => ?_
  by_cases hn : entry.1 = name <;> simp [hn]

theorem alterName_comm (h : name ≠ other) (f g : Entry → Entry) (es : Directory) :
    alterName name f (alterName other g es) = alterName other g (alterName name f es) := by
  simp only [alterName, List.map_map]
  refine List.map_congr_left fun entry _ => ?_
  by_cases hn : entry.1 = name
  · simp [hn, h]
  · simp [hn]

theorem alterName_id (name : String) (es : Directory) : alterName name id es = es := by
  simp [alterName]

theorem alterName_congr (h : (es.map Prod.fst).Nodup) {f g : Entry → Entry}
    (hfg : ∀ e, es.lookup name = some e → f e = g e) :
    alterName name f es = alterName name g es := by
  refine List.map_congr_left fun entry hentry => ?_
  obtain ⟨n, e⟩ := entry
  by_cases hn : n = name
  · subst hn
    simp [hfg e (Assoc.lookup_of_mem h hentry)]
  · simp [hn]

theorem lookup_put (name : String) (e : Entry) (es : Directory) (other : String) :
    (put name e es).lookup other = if other = name then some e else es.lookup other := by
  induction es with
  | nil =>
    by_cases hn : other = name
    · subst hn; simp [put]
    · rw [put, Assoc.lookup_cons_of_ne hn, if_neg hn]
  | cons entry es ih =>
    obtain ⟨n, old⟩ := entry
    rw [put]
    by_cases hn : n = name
    · subst hn
      by_cases ho : other = n
      · subst ho; simp
      · rw [if_pos rfl, if_neg ho, Assoc.lookup_cons_of_ne ho, Assoc.lookup_cons_of_ne ho]
    · rw [if_neg hn]
      by_cases ho : other = n
      · subst ho; simp [hn]
      · rw [Assoc.lookup_cons_of_ne ho, Assoc.lookup_cons_of_ne ho, ih]

theorem keys_put (name : String) (e : Entry) (es : Directory) :
    (put name e es).map Prod.fst =
      if name ∈ es.map Prod.fst then es.map Prod.fst else es.map Prod.fst ++ [name] := by
  induction es with
  | nil => simp [put]
  | cons entry es ih =>
    obtain ⟨n, old⟩ := entry
    rw [put]
    by_cases hn : n = name
    · subst hn; simp
    · have hmem : name ∈ n :: es.map Prod.fst ↔ name ∈ es.map Prod.fst := by
        rw [List.mem_cons, or_iff_right (Ne.symm hn)]
      rw [if_neg hn, List.map_cons, List.map_cons, ih]
      simp only [hmem]
      split_ifs <;> rfl

theorem mem_put {entry : String × Entry} (h : entry ∈ put name e es) :
    entry = (name, e) ∨ entry ∈ es := by
  induction es with
  | nil => exact .inl (List.mem_singleton.1 h)
  | cons old es ih =>
    obtain ⟨n, old⟩ := old
    rw [put] at h
    split_ifs at h with hn
    · subst hn
      rcases List.mem_cons.1 h with rfl | h
      · exact .inl rfl
      · exact .inr (List.mem_cons_of_mem _ h)
    · rcases List.mem_cons.1 h with rfl | h
      · exact .inr List.mem_cons_self
      · exact (ih h).imp_right (List.mem_cons_of_mem _)

theorem put_eq_alterName (h : (es.map Prod.fst).Nodup) (hname : name ∈ es.map Prod.fst)
    (e : Entry) : put name e es = alterName name (fun _ => e) es := by
  induction es with
  | nil => cases hname
  | cons entry es ih =>
    obtain ⟨n, old⟩ := entry
    rw [List.map_cons, List.nodup_cons] at h
    have hcons : alterName name (fun _ => e) ((n, old) :: es) =
        (n, if n = name then e else old) :: alterName name (fun _ => e) es := rfl
    rw [put, hcons]
    by_cases hn : n = name
    · subst hn
      have hrest : alterName n (fun _ => e) es = alterName n id es := by
        refine alterName_congr h.2 fun e he => ?_
        exact absurd (List.mem_map_of_mem (Assoc.mem_of_lookup he)) h.1
      rw [if_pos rfl, if_pos rfl, hrest, alterName_id]
    · rw [if_neg hn, if_neg hn, ih h.2 ((List.mem_cons.1 hname).resolve_left (Ne.symm hn))]

end Directory

/-! ### Trees -/

namespace Entry

open Directory

/-- A file, or a directory of trees with distinct names; the name of the directory above is none of
them. -/
inductive IsTree : Entry → Prop where
  | file (bytes : Text.Bytes) : IsTree (.file bytes)
  | directory {es : Directory} (names : (es.map Prod.fst).Nodup) (up : ".." ∉ es.map Prod.fst)
      (trees : ∀ entry ∈ es, IsTree entry.2) : IsTree (.directory es)

variable {p q : List String} {f g : Entry → Entry} {e : Entry} {es es' : Directory}

theorem IsTree.nodup (h : IsTree (.directory es)) : (es.map Prod.fst).Nodup := by
  cases h with | directory names up trees => exact names

theorem IsTree.ne_up (h : IsTree (.directory es)) {name : String} {e : Entry}
    (he : es.lookup name = some e) : name ≠ ".." := by
  cases h with | directory names up trees =>
  rintro rfl
  exact up (List.mem_map_of_mem (Assoc.mem_of_lookup he))

theorem IsTree.of_lookup (h : IsTree (.directory es)) {name : String} {e : Entry}
    (he : es.lookup name = some e) : e.IsTree := by
  cases h with | directory names up trees => exact trees _ (Assoc.mem_of_lookup he)

/-- A tree that is listed in another order is a tree. -/
theorem IsTree.of_perm (h : IsTree (.directory es)) (hperm : es.Perm es') :
    IsTree (.directory es') := by
  have hkeys := hperm.map Prod.fst
  cases h with | directory names up trees =>
  refine .directory (hkeys.nodup names) ?_ ?_
  · exact fun hup => up (hkeys.mem_iff.2 hup)
  · exact fun entry hentry => trees entry (hperm.mem_iff.2 hentry)

@[simp] theorem below?_nil (e : Entry) : e.below? [] = some e := by
  rw [below?]

@[simp] theorem below?_directory (name : String) (names : List String) (es : Directory) :
    (Entry.directory es).below? (name :: names) = (es.lookup name).bind (below? names) := by
  rw [below?]

@[simp] theorem below?_file (name : String) (names : List String) (bytes : Text.Bytes) :
    (Entry.file bytes).below? (name :: names) = none := by
  rw [below?]
  nofun

@[simp] theorem below?_link (name : String) (names : List String) (target : Path) :
    (Entry.link target).below? (name :: names) = none := by
  rw [below?]
  nofun

theorem below?_append (p q : List String) (e : Entry) :
    e.below? (p ++ q) = (e.below? p).bind (below? q) := by
  induction p generalizing e with
  | nil => simp
  | cons name p ih =>
    cases e with
    | directory es =>
      have hp : below? (p ++ q) = fun e => (below? p e).bind (below? q) := funext ih
      simp [hp, Option.bind_assoc]
    | file bytes => simp
    | link target => simp

/-- What holds of an entry and is handed down to those in a directory holds of all entries below. -/
theorem below?_induction {P : Entry → Prop}
    (down : ∀ {es name e}, P (.directory es) → es.lookup name = some e → P e) (h : P e) {x : Entry}
    (hx : e.below? p = some x) : P x := by
  induction p generalizing e with
  | nil =>
    rw [below?_nil, Option.some.injEq] at hx
    exact hx ▸ h
  | cons name p ih =>
    cases e with
    | directory es =>
      rw [below?_directory, Option.bind_eq_some_iff] at hx
      obtain ⟨e, he, hx⟩ := hx
      exact ih (down h he) hx
    | file bytes => simp at hx
    | link target => simp at hx

theorem IsTree.of_below (h : e.IsTree) {x : Entry} (hx : e.below? p = some x) : x.IsTree :=
  below?_induction (fun h he => IsTree.of_lookup h he) h hx

/-- No directory at or below an entry has two entries of one name; links may stand anywhere. -/
inductive DistinctNames : Entry → Prop where
  | file (bytes : Text.Bytes) : DistinctNames (.file bytes)
  | link (target : Path) : DistinctNames (.link target)
  | directory {es : Directory} (names : (es.map Prod.fst).Nodup)
      (entries : ∀ entry ∈ es, DistinctNames entry.2) : DistinctNames (.directory es)

theorem IsTree.distinctNames (h : e.IsTree) : e.DistinctNames := by
  induction h with
  | file bytes => exact .file bytes
  | directory names up trees ih => exact .directory names ih

theorem DistinctNames.of_lookup (h : DistinctNames (.directory es)) {name : String} {e : Entry}
    (he : es.lookup name = some e) : e.DistinctNames := by
  cases h with | directory names entries => exact entries _ (Assoc.mem_of_lookup he)

theorem DistinctNames.of_perm (h : DistinctNames (.directory es)) (hperm : es.Perm es') :
    DistinctNames (.directory es') := by
  cases h with | directory names entries =>
  refine .directory ((hperm.map Prod.fst).nodup names) ?_
  exact fun entry hentry => entries entry (hperm.mem_iff.2 hentry)

theorem DistinctNames.of_below (h : e.DistinctNames) {x : Entry} (hx : e.below? p = some x) :
    x.DistinctNames :=
  below?_induction (fun h he => DistinctNames.of_lookup h he) h hx

/-! ### Altering the entry at a place -/

/-- Alter the entry at some components below another. -/
def alter : List String → (Entry → Entry) → Entry → Entry
  | [], f, e => f e
  | name :: names, f, .directory es => .directory (alterName name (alter names f) es)
  | _ :: _, _, e => e

@[simp] theorem alter_nil (f : Entry → Entry) (e : Entry) : e.alter [] f = f e := by
  rw [alter]

@[simp] theorem alter_directory (name : String) (names : List String) (f : Entry → Entry)
    (es : Directory) : (Entry.directory es).alter (name :: names) f =
      .directory (alterName name (alter names f) es) := by
  rw [alter]

@[simp] theorem alter_file (name : String) (names : List String) (f : Entry → Entry)
    (bytes : Text.Bytes) : (Entry.file bytes).alter (name :: names) f = .file bytes := by
  rw [alter]
  nofun

@[simp] theorem alter_link (name : String) (names : List String) (f : Entry → Entry)
    (target : Path) : (Entry.link target).alter (name :: names) f = .link target := by
  rw [alter]
  nofun

theorem alter_append (p q : List String) (f : Entry → Entry) :
    alter (p ++ q) f = alter p (alter q f) := by
  induction p with
  | nil => funext e; simp
  | cons name p ih =>
    funext e
    cases e <;> simp [ih]

theorem alter_alter (p : List String) (f g : Entry → Entry) (e : Entry) :
    (e.alter p g).alter p f = e.alter p (f ∘ g) := by
  induction p generalizing e with
  | nil => simp
  | cons name p ih =>
    cases e with
    | directory es =>
      have hcomp : alter p f ∘ alter p g = alter p (f ∘ g) := funext ih
      simp [alterName_alterName, hcomp]
    | file bytes => simp
    | link target => simp

theorem alter_id (p : List String) (e : Entry) : e.alter p id = e := by
  induction p generalizing e with
  | nil => simp
  | cons name p ih =>
    have hid : alter p id = id := funext ih
    cases e <;> simp [hid, alterName_id]

theorem below?_alter (p : List String) (f : Entry → Entry) (e : Entry) :
    (e.alter p f).below? p = (e.below? p).map f := by
  induction p generalizing e with
  | nil => simp
  | cons name p ih =>
    cases e with
    | directory es =>
      simp only [alter_directory, below?_directory, lookup_alterName]
      cases es.lookup name with
      | none => rfl
      | some e => simp [ih]
    | file bytes => simp
    | link target => simp

/-- What stands at a place that does not lead to the altered one, nor the altered one to it, is
left as it is. -/
theorem below?_alter_of_not_prefix (hpq : ¬ p <+: q) (hqp : ¬ q <+: p) (f : Entry → Entry)
    (e : Entry) : (e.alter p f).below? q = e.below? q := by
  induction p generalizing q e with
  | nil => exact absurd List.nil_prefix hpq
  | cons name p ih =>
    cases q with
    | nil => exact absurd List.nil_prefix hqp
    | cons other q =>
      cases e with
      | directory es =>
        simp only [alter_directory, below?_directory, lookup_alterName]
        cases es.lookup other with
        | none => rfl
        | some e =>
          by_cases hn : other = name
          · subst hn
            rw [List.cons_prefix_cons, not_and] at hpq hqp
            simp [ih (hpq rfl) (hqp rfl)]
          · simp [hn]
      | file bytes => simp
      | link target => simp

theorem IsTree.alter_congr (h : e.IsTree) (hfg : ∀ x, e.below? p = some x → f x = g x) :
    e.alter p f = e.alter p g := by
  induction p generalizing e with
  | nil =>
    rw [alter_nil, alter_nil]
    exact hfg e (below?_nil e)
  | cons name p ih =>
    cases e with
    | directory es =>
      rw [alter_directory, alter_directory, alterName_congr h.nodup fun x hx => ?_]
      refine ih (h.of_lookup hx) fun y hy => hfg y ?_
      rw [below?_directory, hx, Option.bind_some, hy]
    | file bytes => simp
    | link target => simp

theorem IsTree.alter_eq_self (h : e.IsTree) (hf : ∀ x, e.below? p = some x → f x = x) :
    e.alter p f = e :=
  (h.alter_congr (g := id) hf).trans (alter_id p e)

theorem IsTree.alter (h : e.IsTree) (hf : ∀ x, e.below? p = some x → x.IsTree → (f x).IsTree) :
    (e.alter p f).IsTree := by
  induction p generalizing e with
  | nil =>
    rw [alter_nil]
    exact hf e (below?_nil e) h
  | cons name p ih =>
    cases h with
    | file bytes =>
      rw [alter_file]
      exact .file bytes
    | @directory es names up trees =>
      rw [alter_directory]
      refine .directory (by rwa [keys_alterName]) (by rwa [keys_alterName]) ?_
      intro altered haltered
      obtain ⟨⟨n, x⟩, hx, rfl⟩ := List.mem_map.1 haltered
      by_cases hn : n = name
      · subst hn
        rw [if_pos rfl]
        refine ih (trees _ hx) fun y hy => hf y ?_
        rw [below?_directory, Assoc.lookup_of_mem names hx, Option.bind_some, hy]
      · rw [if_neg hn]
        exact trees _ hx

/-! ### Putting an entry into a directory -/

/-- Put an entry under a name in a directory. -/
def put (name : String) (e : Entry) : Entry → Entry
  | .directory es => .directory (Directory.put name e es)
  | other => other

theorem directory_putAt (parent : List String) (name : String) (e : Entry) (es : Directory) :
    Entry.directory (putAt parent name e es) =
      (Entry.directory es).alter parent (put name e) := by
  induction parent generalizing es with
  | nil => rw [alter_nil, putAt, put]
  | cons d parent ih =>
    rw [alter_directory, putAt, alterName]
    congr 1
    refine List.map_congr_left fun entry _ => ?_
    obtain ⟨n, x⟩ := entry
    cases x with
    | directory sub =>
      by_cases hn : n = d
      · simp [hn, ih]
      · simp [hn]
    | file bytes => cases parent <;> simp [put]
    | link target => cases parent <;> simp [put]

theorem IsTree.put (h : (Entry.directory es).IsTree) {name : String} (hname : name ≠ "..")
    (he : e.IsTree) : (Entry.directory (Directory.put name e es)).IsTree := by
  cases h with | directory names up trees =>
  refine .directory ?_ ?_ ?_
  · rw [keys_put]
    split_ifs with hmem
    · exact names
    · exact names.append (List.nodup_singleton _) (by simpa using hmem)
  · rw [keys_put]
    split_ifs with hmem
    · exact up
    · simp [up, Ne.symm hname]
  · intro entry hentry
    rcases mem_put hentry with rfl | hentry
    · exact he
    · exact trees entry hentry

end Entry

/-! ### Disks -/

namespace Disk

open Directory Entry

variable {disk : Disk} {parent place : List String} {name : String} {e : Entry} {es : Directory}

/-- There is no link on the disk. -/
def IsTree (disk : Disk) : Prop := (Entry.directory disk.root).IsTree

/-- No directory on a disk has two entries of one name. -/
def DistinctNames (disk : Disk) : Prop := (Entry.directory disk.root).DistinctNames

/-- What stands at a place is put together from what stands at a place before. -/
theorem entryAt?_append (disk : Disk) (p q : List String) :
    disk.entryAt? (p ++ q) = (disk.entryAt? p).bind (below? q) :=
  below?_append p q _

theorem entryAt?_child (h : disk.entryAt? place = some (.directory es)) (name : String) :
    disk.entryAt? (place ++ [name]) = es.lookup name := by
  rw [entryAt?_append, h, Option.bind_some, below?_directory]
  cases es.lookup name <;> simp

theorem exists_directory_of_append {p : List String} {q : List String}
    (h : disk.entryAt? (p ++ name :: q) = some e) :
    ∃ es, disk.entryAt? p = some (.directory es) := by
  rw [entryAt?_append, Option.bind_eq_some_iff] at h
  obtain ⟨x, hx, h⟩ := h
  cases x with
  | directory es => exact ⟨es, hx⟩
  | file bytes => simp at h
  | link target => simp at h

theorem directory_put (disk : Disk) (parent : List String) (name : String) (e : Entry) :
    Entry.directory (disk.put parent name e).root =
      (Entry.directory disk.root).alter parent (Entry.put name e) :=
  directory_putAt ..

theorem entryAt?_put_parent (h : disk.entryAt? parent = some (.directory es)) (name : String)
    (e : Entry) :
    (disk.put parent name e).entryAt? parent = some (.directory (es.put name e)) := by
  have h : (Entry.directory disk.root).below? parent = some (.directory es) := h
  rw [entryAt?, directory_put, below?_alter, h]
  rfl

theorem entryAt?_put_self (h : disk.entryAt? parent = some (.directory es)) (name : String)
    (e : Entry) : (disk.put parent name e).entryAt? (parent ++ [name]) = some e := by
  rw [entryAt?_child (entryAt?_put_parent h name e), lookup_put, if_pos rfl]

/-- **Where putting an entry into a directory can be seen**: on the way to the directory, below the
entry, and nowhere else. -/
theorem entryAt?_put_cases (disk : Disk) (parent : List String) (name : String) (e : Entry)
    (place : List String) :
    (∃ below, parent = place ++ below) ∨ (∃ below, place = parent ++ name :: below) ∨
      (disk.put parent name e).entryAt? place = disk.entryAt? place := by
  by_cases hup : place <+: parent
  · obtain ⟨below, hbelow⟩ := hup
    exact .inl ⟨below, hbelow.symm⟩
  refine .inr ?_
  by_cases hdown : parent <+: place
  · obtain ⟨below, rfl⟩ := hdown
    cases below with
    | nil => exact absurd (by simp) hup
    | cons other below =>
      by_cases hother : other = name
      · exact .inl ⟨below, by rw [hother]⟩
      · refine .inr ?_
        rw [entryAt?_append, entryAt?_append, entryAt?, directory_put, below?_alter]
        show ((disk.entryAt? parent).map (Entry.put name e)).bind _ = _
        cases disk.entryAt? parent with
        | none => rfl
        | some x =>
          cases x with
          | directory es => simp [Entry.put, lookup_put, hother]
          | file bytes => simp [Entry.put]
          | link target => simp [Entry.put]
  · refine .inr ?_
    rw [entryAt?, directory_put]
    exact below?_alter_of_not_prefix hdown hup _ _

theorem IsTree.put (h : disk.IsTree) (hname : name ≠ "..") (he : e.IsTree) :
    (disk.put parent name e).IsTree := by
  rw [IsTree, directory_put]
  refine Entry.IsTree.alter h fun x _ hx => ?_
  cases x with
  | directory es => exact hx.put hname he
  | file bytes => exact hx
  | link target => exact hx

end Disk

end Disposal
