import Disposal.Proofs.Assoc
import Disposal.TypeTable
import Mathlib.Logic.Relation
import Mathlib.Tactic.SplitIfs

/-!
# The closure of base names

`TypeTable.reached` visits a type table depth first and takes every visited type out of the
table.  What it visits is what the base names lead to: `TypeTable.Extends` is one step from a
known type to one of its base names, and its closures are the paths.

* `TypeTable.leads_without` removes a name from a path: a path either avoids the name, or some
  base name of it leads to the end without it;
* `TypeTable.mem_reached` and `TypeTable.mem_interfaces` characterise the closures;
* `TypeTable.interfaces_congr`: they depend on what the table finds, not on its other entries.
-/

namespace Disposal

namespace TypeTable

open Relation

/-- `b` is a base name of the known type `a`. -/
def Extends (table : TypeTable) (a b : String) : Prop :=
  ∃ t, table.get? a = some t ∧ b ∈ t.baseNames

variable {table : TypeTable}

/-! ### Taking a name out of the table -/

theorem get?_without (table : TypeTable) (name n : String) :
    (table.without name).get? n = if n = name then none else table.get? n := by
  rw [without, get?, Assoc.lookup_filter (· != name)]
  by_cases hn : n = name
  · simp [hn]
  · simp [hn, get?]

theorem get?_without_of_ne {name n : String} (h : n ≠ name) :
    (table.without name).get? n = table.get? n := by
  rw [get?_without, if_neg h]

theorem length_without_lt {name : String} {t : TypeSymbol} (h : table.get? name = some t) :
    (table.without name).length < table.length := by
  obtain ⟨before, behind, rfl, -⟩ := List.lookup_eq_some_iff.1 h
  have hb := List.length_filter_le (fun e : String × TypeSymbol => e.1 != name) before
  have ha := List.length_filter_le (fun e : String × TypeSymbol => e.1 != name) behind
  simp [without]
  omega

theorem extends_of_without {name a b : String} (h : (table.without name).Extends a b) :
    table.Extends a b := by
  obtain ⟨t, ht, hb⟩ := h
  rw [get?_without] at ht
  split_ifs at ht
  exact ⟨t, ht, hb⟩

theorem leads_of_without {name a b : String}
    (h : ReflTransGen (table.without name).Extends a b) : ReflTransGen table.Extends a b :=
  ReflTransGen.mono (fun _ _ => extends_of_without) _ _ h

/-- A path that does not end in `name` avoids it from its start on, or else from its last visit
of `name` on. -/
theorem leads_without {name m n : String} (hn : n ≠ name) (h : ReflTransGen table.Extends m n) :
    (m ≠ name ∧ ReflTransGen (table.without name).Extends m n) ∨
      ∃ b, table.Extends name b ∧ ReflTransGen (table.without name).Extends b n := by
  induction h using ReflTransGen.head_induction_on with
  | refl => exact .inl ⟨hn, .refl⟩
  | head hstep _ ih =>
    rename_i a c _
    rcases ih with ⟨-, hpath⟩ | hlast
    · by_cases ha : a = name
      · subst ha; exact .inr ⟨c, hstep, hpath⟩
      · obtain ⟨t, ht, hc⟩ := hstep
        exact .inl ⟨ha, .head ⟨t, by rwa [get?_without_of_ne ha], hc⟩ hpath⟩
    · exact .inr hlast

/-! ### The visit -/

theorem nextKnown_eq_none {pending : List String} (h : table.nextKnown pending = none) :
    ∀ n ∈ pending, table.get? n = none := by
  induction pending with
  | nil => simp
  | cons name pending ih =>
    rw [nextKnown] at h
    split at h
    · cases h
    · rename_i hname
      intro n hn
      rcases List.mem_cons.1 hn with rfl | hn
      · exact hname
      · exact ih h n hn

theorem nextKnown_eq_some {pending rest : List String} {name : String} {t : TypeSymbol}
    (h : table.nextKnown pending = some (name, t, rest)) :
    table.get? name = some t ∧
      ∃ unknown, pending = unknown ++ name :: rest ∧ ∀ n ∈ unknown, table.get? n = none := by
  induction pending with
  | nil => cases h
  | cons first pending ih =>
    rw [nextKnown] at h
    split at h
    · rename_i u hu
      simp only [Option.some.injEq, Prod.mk.injEq] at h
      obtain ⟨rfl, rfl, rfl⟩ := h
      exact ⟨hu, [], rfl, by simp⟩
    · rename_i hfirst
      obtain ⟨hname, unknown, rfl, hunknown⟩ := ih h
      exact ⟨hname, first :: unknown, rfl, by simpa [hfirst] using hunknown⟩

theorem reachedFrom_sound {fuel : Nat} {pending : List String} {t : TypeSymbol}
    (h : t ∈ reachedFrom fuel table pending) :
    ∃ m ∈ pending, ∃ n, ReflTransGen table.Extends m n ∧ table.get? n = some t := by
  induction fuel generalizing table pending with
  | zero => cases h
  | succ fuel ih =>
    rw [reachedFrom] at h
    split at h
    · cases h
    · rename_i name u rest hnext
      obtain ⟨hname, unknown, rfl, -⟩ := nextKnown_eq_some hnext
      rcases List.mem_cons.1 h with rfl | h
      · exact ⟨name, by simp, name, .refl, hname⟩
      · obtain ⟨m, hm, n, hpath, hn⟩ := ih h
        have hn' : table.get? n = some t := by
          rw [get?_without] at hn
          split_ifs at hn
          exact hn
        rcases List.mem_append.1 hm with hm | hm
        · exact ⟨name, by simp, n, .head ⟨u, hname, hm⟩ (leads_of_without hpath), hn'⟩
        · exact ⟨m, by simp [hm], n, leads_of_without hpath, hn'⟩

theorem reachedFrom_complete {fuel : Nat} (hfuel : table.length ≤ fuel) {pending : List String}
    {m n : String} {t : TypeSymbol} (hm : m ∈ pending) (hpath : ReflTransGen table.Extends m n)
    (hn : table.get? n = some t) : t ∈ reachedFrom fuel table pending := by
  induction fuel generalizing table pending m n t with
  | zero =>
    rw [List.length_eq_zero_iff.1 (Nat.le_zero.1 hfuel)] at hn
    cases hn
  | succ fuel ih =>
    -- a path to a known name starts at a known name
    have hmknown : (table.get? m).isSome := by
      rcases ReflTransGen.cases_head hpath with rfl | ⟨_, ⟨u, hu, -⟩, -⟩
      · simp [hn]
      · simp [hu]
    rw [reachedFrom]
    split
    · rename_i hnext
      rw [nextKnown_eq_none hnext m hm] at hmknown
      cases hmknown
    · rename_i name u rest hnext
      obtain ⟨hname, unknown, rfl, hunknown⟩ := nextKnown_eq_some hnext
      by_cases hnn : n = name
      · subst hnn
        rw [hname] at hn
        cases hn
        exact List.mem_cons_self
      · have hlt := length_without_lt hname
        have hn' : (table.without name).get? n = some t := by rwa [get?_without_of_ne hnn]
        refine List.mem_cons_of_mem _ ?_
        rcases leads_without hnn hpath with ⟨hmn, hpath'⟩ | ⟨b, ⟨u', hu', hb⟩, hpath'⟩
        · -- the start is known, so it stands behind the visited name
          have hmrest : m ∈ rest := by
            rcases List.mem_append.1 hm with hm | hm
            · rw [hunknown m hm] at hmknown; cases hmknown
            · exact (List.mem_cons.1 hm).resolve_left hmn
          exact ih (by omega) (List.mem_append_right _ hmrest) hpath' hn'
        · -- the path goes on from a base name of the visited one
          rw [hname] at hu'
          cases hu'
          exact ih (by omega) (List.mem_append_left _ hb) hpath' hn'

/-- **The visit finds exactly what the names lead to.** -/
theorem mem_reached {names : List String} {t : TypeSymbol} :
    t ∈ table.reached names ↔
      ∃ m ∈ names, ∃ n, ReflTransGen table.Extends m n ∧ table.get? n = some t :=
  ⟨reachedFrom_sound,
    fun ⟨_, hm, _, hpath, hn⟩ => reachedFrom_complete (Nat.le_refl _) hm hpath hn⟩

/-- **The interfaces of a known type** are the interfaces under other names that its base names
lead to. -/
theorem mem_interfaces {t i : TypeSymbol} (ht : table.get? t.qualifiedName = some t) :
    i ∈ table.interfaces t ↔ i.kind = .interfaceType ∧ ∃ n, n ≠ t.qualifiedName ∧
      TransGen table.Extends t.qualifiedName n ∧ table.get? n = some i := by
  simp only [interfaces, List.mem_filter, mem_reached, beq_iff_eq]
  rw [and_comm]
  refine and_congr_right fun _ => ⟨?_, ?_⟩
  · rintro ⟨m, hm, n, hpath, hn⟩
    rw [get?_without] at hn
    split_ifs at hn with hne
    exact ⟨n, hne, .head' ⟨t, ht, hm⟩ (leads_of_without hpath), hn⟩
  · rintro ⟨n, hne, hpath, hn⟩
    -- only what follows the last visit of the type itself is needed
    obtain ⟨b, ⟨t', ht', hb⟩, hpath'⟩ :=
      (leads_without hne hpath.to_reflTransGen).resolve_left fun h => h.1 rfl
    rw [ht] at ht'
    cases ht'
    exact ⟨b, hb, n, hpath', by rwa [get?_without_of_ne hne]⟩

/-! ### Tables that answer alike -/

theorem nextKnown_nil (pending : List String) : nextKnown [] pending = none := by
  induction pending with
  | nil => rfl
  | cons name pending ih => exact ih

theorem reachedFrom_eq_nil (fuel : Nat) {pending : List String}
    (h : table.nextKnown pending = none) : reachedFrom fuel table pending = [] := by
  cases fuel with
  | zero => rfl
  | succ fuel => simp only [reachedFrom, h]

section Congr

variable {other : TypeTable} (h : ∀ n, table.get? n = other.get? n)

include h

theorem nextKnown_congr (pending : List String) :
    table.nextKnown pending = other.nextKnown pending := by
  induction pending with
  | nil => rfl
  | cons name pending ih => rw [nextKnown, nextKnown, h, ih]

theorem get?_without_congr (name n : String) :
    (table.without name).get? n = (other.without name).get? n := by
  rw [get?_without, get?_without, h]

/-- The visit asks the table and nothing else: entries behind the first one of a name make the
table longer and are never looked at. -/
theorem reachedFrom_congr {fuel fuel' : Nat} (hfuel : table.length ≤ fuel)
    (hfuel' : other.length ≤ fuel') (pending : List String) :
    reachedFrom fuel table pending = reachedFrom fuel' other pending := by
  induction fuel generalizing fuel' table other pending with
  | zero =>
    obtain rfl := List.length_eq_zero_iff.1 (Nat.le_zero.1 hfuel)
    rw [reachedFrom_eq_nil _ (nextKnown_nil pending),
      reachedFrom_eq_nil _ ((nextKnown_congr h pending).symm.trans (nextKnown_nil pending))]
  | succ fuel ih =>
    cases hnext : table.nextKnown pending with
    | none =>
      rw [reachedFrom_eq_nil _ hnext,
        reachedFrom_eq_nil _ ((nextKnown_congr h pending).symm.trans hnext)]
    | some next =>
      obtain ⟨name, t, rest⟩ := next
      have hnext' := (nextKnown_congr h pending).symm.trans hnext
      have hlt := length_without_lt (nextKnown_eq_some hnext).1
      have hlt' := length_without_lt (nextKnown_eq_some hnext').1
      -- the name visited is in the other table too, so fuel is left there as well
      obtain ⟨left, rfl⟩ := Nat.exists_eq_add_one_of_ne_zero (show fuel' ≠ 0 by omega)
      have hrest := ih (get?_without_congr h name) (by omega) (show _ ≤ left by omega)
        (t.baseNames ++ rest)
      simp only [reachedFrom, hnext, hnext', hrest]

/-- Two tables that find the same types find the same interfaces of every type. -/
theorem interfaces_congr (t : TypeSymbol) : table.interfaces t = other.interfaces t := by
  rw [interfaces, interfaces, reached, reached,
    reachedFrom_congr (get?_without_congr h t.qualifiedName) (Nat.le_refl _) (Nat.le_refl _)]

end Congr

end TypeTable

end Disposal
