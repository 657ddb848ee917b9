import Disposal.Proofs.Closure
import Mathlib.Data.Prod.Lex
import Mathlib.Order.WellFounded

/-!
# The search for interfaces

The interfaces of a type are searched with a list of pending names.  Each step takes the next
name; a name that was visited is dropped, an unknown one is only marked, and a known one is marked
and its base names become pending.  The type itself counts as visited from the start.

* `Worklist.step` is one step of a search, `Worklist.Steps` any number of them;
* `Worklist.wellFounded_step`: over a table no search goes on forever, because a known name is
  visited once and all other steps shorten what is pending;
* `Worklist.Explores` is what every step keeps: visited names are followed up, and everything that
  was come across is a base of the type or of its bases.

The main statement puts it together with the closure that `TypeTable.interfaces` computes.
-/

namespace Disposal

open Relation

/-- A search for interfaces on its way. -/
structure Worklist where
  /-- Names that were looked at. -/
  visited : List String
  /-- Names still to be looked at, the next one first. -/
  pending : List String
  /-- The interfaces found so far. -/
  found : List TypeSymbol

namespace Worklist

/-- The search for the interfaces of a type begins with its base names, the last one first. -/
def start (t : TypeSymbol) : Worklist where
  visited := [t.qualifiedName]
  pending := t.baseNames.reverse
  found := []

/-- One step of a search in which types are found by `find`; none when nothing is pending. -/
def step (find : String → Option TypeSymbol) (w : Worklist) : Option Worklist :=
  match w.pending with
  | [] => none
  | name :: rest =>
    if name ∈ w.visited then some { w with pending := rest }
    else match find name with
      | none => some { w with visited := name :: w.visited, pending := rest }
      | some t => some
        { visited := name :: w.visited
          pending := t.baseNames.reverse ++ rest
          found := if t.kind = .interfaceType then w.found ++ [t] else w.found }

/-- Any number of steps of a search. -/
def Steps (find : String → Option TypeSymbol) : Worklist → Worklist → Prop :=
  ReflTransGen fun w next => w.step find = some next

variable {find : String → Option TypeSymbol} {w next : Worklist}

theorem step_eq_none : w.step find = none ↔ w.pending = [] := by
  rw [step]
  constructor
  · intro h
    split at h
    · assumption
    · split_ifs at h
      split at h <;> cases h
  · intro h
    rw [h]

/-- What a step can do: drop a name, mark an unknown one, or visit a known one. -/
theorem step_cases (h : w.step find = some next) : ∃ name rest, w.pending = name :: rest ∧
    (name ∈ w.visited ∧ next = { w with pending := rest } ∨
      name ∉ w.visited ∧ find name = none ∧
        next = { w with visited := name :: w.visited, pending := rest } ∨
      name ∉ w.visited ∧ ∃ t, find name = some t ∧ next =
        { visited := name :: w.visited
          pending := t.baseNames.reverse ++ rest
          found := if t.kind = .interfaceType then w.found ++ [t] else w.found }) := by
  rw [step] at h
  split at h
  · cases h
  · rename_i name rest hpending
    refine ⟨name, rest, hpending, ?_⟩
    split_ifs at h with hvisited
    · exact .inl ⟨hvisited, (Option.some.inj h).symm⟩
    · split at h
      · rename_i hfind
        exact .inr (.inl ⟨hvisited, hfind, (Option.some.inj h).symm⟩)
      · rename_i t hfind
        exact .inr (.inr ⟨hvisited, t, hfind, (Option.some.inj h).symm⟩)

/-! ### Every search ends -/

/-- The entries of a table that were not visited. -/
def unvisited (table : TypeTable) (visited : List String) : TypeTable :=
  table.filter fun entry => entry.1 ∉ visited

variable {table : TypeTable}

theorem unvisited_cons (name : String) (visited : List String) :
    unvisited table (name :: visited) = (unvisited table visited).without name := by
  rw [unvisited, unvisited, TypeTable.without, List.filter_filter]
  refine List.filter_congr fun entry _ => ?_
  rw [Bool.eq_iff_iff]
  simp [not_or]

theorem length_unvisited_cons_le (name : String) (visited : List String) :
    (unvisited table (name :: visited)).length ≤ (unvisited table visited).length := by
  rw [unvisited_cons]
  exact List.length_filter_le _ _

theorem length_unvisited_cons_lt {name : String} {visited : List String} {t : TypeSymbol}
    (hnew : name ∉ visited) (hname : table.get? name = some t) :
    (unvisited table (name :: visited)).length < (unvisited table visited).length := by
  have hleft : (unvisited table visited).get? name = some t := by
    rw [TypeTable.get?, unvisited, Assoc.lookup_filter fun n => decide (n ∉ visited)]
    simpa [hnew] using (show table.lookup name = some t from hname)
  rw [unvisited_cons]
  exact TypeTable.length_without_lt hleft

/-- What gets smaller with every step: the entries not visited, and then the pending names. -/
def measure (table : TypeTable) (w : Worklist) : ℕ ×ₗ ℕ :=
  toLex ((unvisited table w.visited).length, w.pending.length)

theorem measure_lt (h : w.step table.get? = some next) :
    next.measure table < w.measure table := by
  obtain ⟨name, rest, hpending, hcases⟩ := step_cases h
  have hshort : rest.length < w.pending.length := by
    rw [hpending]
    exact Nat.lt_succ_self _
  rw [measure, measure, Prod.Lex.toLex_lt_toLex']
  rcases hcases with ⟨-, rfl⟩ | ⟨-, -, rfl⟩ | ⟨hnew, t, hname, rfl⟩
  · exact ⟨Nat.le_refl _, fun _ => hshort⟩
  · exact ⟨length_unvisited_cons_le _ _, fun _ => hshort⟩
  · -- the new base names may be many, but one entry less is left
    have hlt := length_unvisited_cons_lt hnew hname
    exact ⟨Nat.le_of_lt hlt, fun heq => absurd heq (Nat.ne_of_lt hlt)⟩

/-- **No search in a table goes on forever**, whatever the base names of its types. -/
theorem wellFounded_step (table : TypeTable) :
    WellFounded fun next w : Worklist => w.step table.get? = some next :=
  Subrelation.wf (fun h => measure_lt h) (InvImage.wf (measure table) wellFounded_lt)

theorem exists_steps_done (table : TypeTable) (w : Worklist) :
    ∃ final, Steps table.get? w final ∧ final.pending = [] := by
  induction w using (wellFounded_step table).induction with
  | _ w ih =>
    cases hstep : w.step table.get? with
    | none => exact ⟨w, .refl, step_eq_none.1 hstep⟩
    | some next =>
      obtain ⟨final, hsteps, hdone⟩ := ih next hstep
      exact ⟨final, .head hstep hsteps, hdone⟩

/-! ### What a search finds -/

/-- What holds at every moment of the search for the interfaces of a type. -/
structure Explores (table : TypeTable) (t : TypeSymbol) (w : Worklist) : Prop where
  /-- The type itself is visited. -/
  self : t.qualifiedName ∈ w.visited
  /-- The base names of what was visited are visited or pending. -/
  followed : ∀ a ∈ w.visited, ∀ b, table.Extends a b → b ∈ w.visited ∨ b ∈ w.pending
  /-- A name is visited or pending only if the base names of the type lead to it. -/
  reached : ∀ n, n ∈ w.visited ∨ n ∈ w.pending →
    n = t.qualifiedName ∨ TransGen table.Extends t.qualifiedName n
  /-- The interfaces found are those visited under other names. -/
  found : ∀ i, i ∈ w.found ↔ i.kind = .interfaceType ∧
    ∃ n ∈ w.visited, n ≠ t.qualifiedName ∧ table.get? n = some i

variable {t : TypeSymbol}

theorem explores_start (ht : table.get? t.qualifiedName = some t) :
    Explores table t (start t) where
  self := List.mem_singleton_self _
  followed := by
    intro a ha b hab
    obtain rfl := List.mem_singleton.1 ha
    obtain ⟨u, hu, hb⟩ := hab
    obtain rfl : t = u := Option.some.inj (ht.symm.trans hu)
    exact .inr (List.mem_reverse.2 hb)
  reached := by
    rintro n (hn | hn)
    · exact .inl (List.mem_singleton.1 hn)
    · exact .inr (.single ⟨t, ht, List.mem_reverse.1 hn⟩)
  found := by
    intro i
    simp only [start, List.not_mem_nil, List.mem_singleton, exists_eq_left, ne_eq,
      not_true_eq_false, false_and, and_false]

theorem Explores.leads (h : Explores table t w) {name : String} {rest : List String}
    (hpending : w.pending = name :: rest) (hnew : name ∉ w.visited) :
    name ≠ t.qualifiedName ∧ TransGen table.Extends t.qualifiedName name := by
  have hne : name ≠ t.qualifiedName := fun heq => hnew (heq ▸ h.self)
  have hmem : name ∈ w.pending := by
    rw [hpending]
    exact List.mem_cons_self
  exact ⟨hne, (h.reached name (.inr hmem)).resolve_left hne⟩

/-- Visiting a new name: its base names become pending, and it is kept if it is an interface. -/
theorem Explores.visit (h : Explores table t w) {name : String} {rest : List String}
    (hpending : w.pending = name :: rest) (hnew : name ∉ w.visited) {bases : List String}
    {found : List TypeSymbol} (hbases : ∀ b, b ∈ bases ↔ table.Extends name b)
    (hfound : ∀ i, i ∈ found ↔ i ∈ w.found ∨ i.kind = .interfaceType ∧ table.get? name = some i) :
    Explores table t ⟨name :: w.visited, bases ++ rest, found⟩ := by
  obtain ⟨hne, hleads⟩ := h.leads hpending hnew
  refine ⟨List.mem_cons_of_mem _ h.self, fun a ha b hab => ?_, fun n hn => ?_, fun i => ?_⟩
  · rcases List.mem_cons.1 ha with rfl | ha
    · exact .inr (List.mem_append_left _ ((hbases b).2 hab))
    · rcases h.followed a ha b hab with hb | hb
      · exact .inl (List.mem_cons_of_mem _ hb)
      · -- what was pending is the name visited now, or still pending
        rw [hpending] at hb
        rcases List.mem_cons.1 hb with rfl | hb
        · exact .inl List.mem_cons_self
        · exact .inr (List.mem_append_right _ hb)
  · rcases hn with hn | hn
    · rcases List.mem_cons.1 hn with rfl | hn
      · exact .inr hleads
      · exact h.reached n (.inl hn)
    · rcases List.mem_append.1 hn with hn | hn
      · exact .inr (hleads.tail ((hbases n).1 hn))
      · exact h.reached n (.inr (hpending ▸ List.mem_cons_of_mem _ hn))
  · rw [hfound, h.found]
    constructor
    · rintro (⟨hkind, n, hn, hother, hi⟩ | ⟨hkind, hi⟩)
      · exact ⟨hkind, n, List.mem_cons_of_mem _ hn, hother, hi⟩
      · exact ⟨hkind, name, List.mem_cons_self, hne, hi⟩
    · rintro ⟨hkind, n, hn, hother, hi⟩
      rcases List.mem_cons.1 hn with rfl | hn
      · exact .inr ⟨hkind, hi⟩
      · exact .inl ⟨hkind, n, hn, hother, hi⟩

theorem Explores.drop (h : Explores table t w) {name : String} {rest : List String}
    (hpending : w.pending = name :: rest) (hvisited : name ∈ w.visited) :
    Explores table t { w with pending := rest } := by
  refine ⟨h.self, fun a ha b hab => ?_, fun n hn => ?_, h.found⟩
  · rcases h.followed a ha b hab with hb | hb
    · exact .inl hb
    · rw [hpending] at hb
      rcases List.mem_cons.1 hb with rfl | hb
      · exact .inl hvisited
      · exact .inr hb
  · refine h.reached n (hn.imp id fun hn => ?_)
    rw [hpending]
    exact List.mem_cons_of_mem _ hn

/-- **Every step keeps the search exact.** -/
theorem Explores.step (h : Explores table t w) (hstep : w.step table.get? = some next) :
    Explores table t next := by
  obtain ⟨name, rest, hpending, hcases⟩ := step_cases hstep
  rcases hcases with ⟨hvisited, rfl⟩ | ⟨hnew, hname, rfl⟩ | ⟨hnew, u, hname, rfl⟩
  · exact h.drop hpending hvisited
  · -- an unknown name has no base names and is no interface
    have hbases : ∀ b, b ∈ [] ↔ table.Extends name b := fun b => by
      simp [TypeTable.Extends, hname]
    exact h.visit hpending hnew hbases fun i => by simp [hname]
  · have hbases : ∀ b, b ∈ u.baseNames.reverse ↔ table.Extends name b := fun b => by
      simp [TypeTable.Extends, hname]
    refine h.visit hpending hnew hbases fun i => ?_
    rw [hname, Option.some.injEq]
    by_cases hu : u.kind = .interfaceType
    · rw [if_pos hu, List.mem_append, List.mem_singleton]
      refine or_congr_right ⟨?_, fun hi => hi.2.symm⟩
      rintro rfl
      exact ⟨hu, rfl⟩
    · rw [if_neg hu]
      refine ⟨.inl, fun hi => hi.resolve_right ?_⟩
      rintro ⟨hkind, rfl⟩
      exact hu hkind

theorem Explores.steps (h : Explores table t w) (hsteps : Steps table.get? w next) :
    Explores table t next := by
  induction hsteps with
  | refl => exact h
  | tail _ hstep ih => exact ih.step hstep

/-- When nothing is pending, everything that the base names lead to was visited. -/
theorem Explores.mem_visited (h : Explores table t w) (hdone : w.pending = []) {n : String}
    (hpath : TransGen table.Extends t.qualifiedName n) : n ∈ w.visited := by
  have hnext : ∀ a ∈ w.visited, ∀ b, table.Extends a b → b ∈ w.visited := by
    intro a ha b hab
    rcases h.followed a ha b hab with hb | hb
    · exact hb
    · rw [hdone] at hb
      cases hb
  induction hpath with
  | single hstep => exact hnext _ h.self _ hstep
  | tail _ hstep ih => exact hnext _ ih _ hstep

/-- **A search that is done has found the interfaces of its type.** -/
theorem Explores.mem_found (h : Explores table t w) (hdone : w.pending = [])
    (ht : table.get? t.qualifiedName = some t) (i : TypeSymbol) :
    i ∈ w.found ↔ i ∈ table.interfaces t := by
  rw [h.found, TypeTable.mem_interfaces ht]
  refine and_congr_right fun _ => ⟨?_, ?_⟩
  · rintro ⟨n, hn, hne, hi⟩
    exact ⟨n, hne, (h.reached n (.inl hn)).resolve_left hne, hi⟩
  · rintro ⟨n, hne, hpath, hi⟩
    exact ⟨n, h.mem_visited hdone hpath, hne, hi⟩

end Worklist

namespace TypeTable

variable {table other : TypeTable}

/-! ### What the base lists may change -/

/-- Two types of the same name and kind whose base lists name the same known types. -/
structure SameBases (table : TypeTable) (t u : TypeSymbol) : Prop where
  name : t.qualifiedName = u.qualifiedName
  kind : t.kind = u.kind
  bases : ∀ b, table.known b = true → (b ∈ t.baseNames ↔ b ∈ u.baseNames)

/-- Two tables with the same names and, but for the order, the repetitions and the unknown names
in base lists, the same types. -/
structure SameGraph (table other : TypeTable) : Prop where
  known : ∀ n, table.known n = other.known n
  types : ∀ n t u, table.get? n = some t → other.get? n = some u → table.SameBases t u

theorem SameGraph.symm (h : table.SameGraph other) : other.SameGraph table := by
  refine ⟨fun n => (h.known n).symm, fun n t u ht hu => ?_⟩
  have hsame := h.types n u t hu ht
  refine ⟨hsame.name.symm, hsame.kind.symm, fun b hb => ?_⟩
  exact (hsame.bases b (by rw [h.known, hb])).symm

theorem SameGraph.exists_get? (h : table.SameGraph other) {n : String} {t : TypeSymbol}
    (ht : table.get? n = some t) : ∃ u, other.get? n = some u ∧ table.SameBases t u := by
  have hknown := h.known n
  rw [TypeTable.known, TypeTable.known, ht, Option.isSome_some] at hknown
  obtain ⟨u, hu⟩ := Option.isSome_iff_exists.1 hknown.symm
  exact ⟨u, hu, h.types n t u ht hu⟩

theorem SameGraph.qualifiedName_eq (h : table.SameGraph other)
    (hnames : ∀ n t, table.get? n = some t → t.qualifiedName = n) (n : String) (t : TypeSymbol)
    (ht : other.get? n = some t) : t.qualifiedName = n := by
  obtain ⟨u, hu, hsame⟩ := h.symm.exists_get? ht
  rw [hsame.name, hnames n u hu]

theorem SameGraph.extends (h : table.SameGraph other) {a b : String} (hb : table.known b = true)
    (hab : table.Extends a b) : other.Extends a b := by
  obtain ⟨t, ht, hmem⟩ := hab
  obtain ⟨u, hu, hsame⟩ := h.exists_get? ht
  exact ⟨u, hu, (hsame.bases b hb).1 hmem⟩

theorem known_of_leads {a n : String} (h : TransGen table.Extends a n) :
    table.known a = true := by
  obtain ⟨b, ⟨t, ht, -⟩, -⟩ := TransGen.head'_iff.1 h
  rw [known, ht]
  rfl

theorem SameGraph.leads (h : table.SameGraph other) {a n : String} (hn : table.known n = true)
    (hpath : TransGen table.Extends a n) : TransGen other.Extends a n := by
  induction hpath using TransGen.head_induction_on with
  | single hstep => exact .single (h.extends hn hstep)
  | head hstep hrest ih => exact .head (h.extends (known_of_leads hrest) hstep) ih

/-- The names of the interfaces of a known type, when every type is listed under its own name. -/
theorem mem_interfaceNames (hnames : ∀ n t, table.get? n = some t → t.qualifiedName = n)
    {s : TypeSymbol} (hs : table.get? s.qualifiedName = some s) {n : String} :
    n ∈ (table.interfaces s).map TypeSymbol.qualifiedName ↔
      (∃ i, table.get? n = some i ∧ i.kind = .interfaceType) ∧ n ≠ s.qualifiedName ∧
        TransGen table.Extends s.qualifiedName n := by
  simp only [List.mem_map, mem_interfaces hs]
  constructor
  · rintro ⟨i, ⟨hkind, m, hne, hpath, hm⟩, rfl⟩
    rw [hnames m i hm]
    exact ⟨⟨i, hm, hkind⟩, hne, hpath⟩
  · rintro ⟨⟨i, hi, hkind⟩, hne, hpath⟩
    exact ⟨i, ⟨hkind, n, hne, hpath, hi⟩, hnames n i hi⟩

theorem SameGraph.mem_interfaceNames (h : table.SameGraph other)
    (hnames : ∀ n t, table.get? n = some t → t.qualifiedName = n) {s u : TypeSymbol}
    (hs : table.get? s.qualifiedName = some s) (hu : other.get? s.qualifiedName = some u)
    {n : String} (hn : n ∈ (table.interfaces s).map TypeSymbol.qualifiedName) :
    n ∈ (other.interfaces u).map TypeSymbol.qualifiedName := by
  have hnames' := h.qualifiedName_eq hnames
  have huname : u.qualifiedName = s.qualifiedName := hnames' _ u hu
  obtain ⟨⟨i, hi, hkind⟩, hne, hpath⟩ := (TypeTable.mem_interfaceNames hnames hs).1 hn
  obtain ⟨j, hj, hsame⟩ := h.exists_get? hi
  have hknown : table.known n = true := by rw [TypeTable.known, hi]; rfl
  rw [TypeTable.mem_interfaceNames hnames' (by rw [huname, hu]), huname]
  exact ⟨⟨j, hj, hsame.kind ▸ hkind⟩, hne, h.leads hknown hpath⟩

/-! ### The interfaces of a type -/

/-- The type `i` of a table is an interface of the type `s`: one or more steps from known types to
their base names lead from `s` to it, and it is not `s` itself. -/
structure IsInterfaceOf (table : TypeTable) (s i : TypeSymbol) : Prop where
  kind : i.kind = .interfaceType
  listed : table.get? i.qualifiedName = some i
  other : i.qualifiedName ≠ s.qualifiedName
  path : TransGen table.Extends s.qualifiedName i.qualifiedName

/-- **The interfaces of a type are those that its base names lead to**, in every table that lists
types under their own names.  The search for them ends, however the base names lead back to each
other, and finds exactly them; the order, the repetitions and the unknown names of base lists do
not matter. -/
theorem interfaces_exact {table : TypeTable}
    (hnames : ∀ n t, table.get? n = some t → t.qualifiedName = n) {s : TypeSymbol}
    (hs : table.get? s.qualifiedName = some s) :
    WellFounded (fun next w : Worklist => w.step table.get? = some next) ∧
      (∃ final, Worklist.Steps table.get? (.start s) final ∧ final.pending = [] ∧
        ∀ i, i ∈ final.found ↔ i ∈ table.interfaces s) ∧
      (∀ i, i ∈ table.interfaces s ↔ table.IsInterfaceOf s i) ∧
      ∀ other u, table.SameGraph other → other.get? s.qualifiedName = some u →
        ∀ n, n ∈ (table.interfaces s).map TypeSymbol.qualifiedName ↔
          n ∈ (other.interfaces u).map TypeSymbol.qualifiedName := by
  refine ⟨Worklist.wellFounded_step table, ?_, fun i => ?_, fun other u hsame hu n => ?_⟩
  · obtain ⟨final, hsteps, hdone⟩ := Worklist.exists_steps_done table (.start s)
    have hexplores := (Worklist.explores_start hs).steps hsteps
    exact ⟨final, hsteps, hdone, fun i => hexplores.mem_found hdone hs i⟩
  · rw [mem_interfaces hs]
    constructor
    · rintro ⟨hkind, n, hne, hpath, hn⟩
      obtain rfl := hnames n i hn
      exact ⟨hkind, hn, hne, hpath⟩
    · intro h
      exact ⟨h.kind, _, h.other, h.path, h.listed⟩
  · have hnames' := hsame.qualifiedName_eq hnames
    have huname : u.qualifiedName = s.qualifiedName := hnames' _ u hu
    refine ⟨hsame.mem_interfaceNames hnames hs hu, ?_⟩
    rw [← huname] at hs hu
    exact hsame.symm.mem_interfaceNames hnames' hu hs

/-- A class with a repeated and an unknown base name. -/
def cyclicClass : TypeSymbol := { name := "C", baseNames := ["I", "Missing", "I"] }

/-- An interface that names itself. -/
def cyclicInterface : TypeSymbol :=
  { name := "J", kind := .interfaceType, baseNames := ["J", "I", "Missing"] }

/-- A table in which base names lead back from everywhere. -/
def cyclicTable : TypeTable :=
  [("C", cyclicClass), ("I", { name := "I", kind := .interfaceType, baseNames := ["J", "C"] }),
    ("J", cyclicInterface)]

theorem interfaces_exact_cyclicTable :
    (∀ n t, cyclicTable.get? n = some t → t.qualifiedName = n) ∧
      cyclicTable.get? cyclicClass.qualifiedName = some cyclicClass ∧
      cyclicTable.IsInterfaceOf cyclicClass cyclicInterface ∧
      ∃ final, Worklist.Steps cyclicTable.get? (.start cyclicClass) final ∧ final.pending = [] ∧
        cyclicInterface ∈ final.found := by
  have hnames : ∀ n t, cyclicTable.get? n = some t → t.qualifiedName = n := by
    intro n t ht
    have hlisted : ∀ entry ∈ cyclicTable, entry.2.qualifiedName = entry.1 := by decide
    exact hlisted (n, t) (Assoc.mem_of_lookup ht)
  have hclass : cyclicTable.get? cyclicClass.qualifiedName = some cyclicClass := by decide
  have hmem : cyclicInterface ∈ cyclicTable.interfaces cyclicClass := by decide
  obtain ⟨-, ⟨final, hsteps, hdone, hfound⟩, hexact, -⟩ := interfaces_exact hnames hclass
  exact ⟨hnames, hclass, (hexact _).1 hmem, final, hsteps, hdone, (hfound _).2 hmem⟩

end TypeTable

end Disposal
