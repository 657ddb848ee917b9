import Mathlib.Tactic.SplitIfs

/-!
# Association lists

Tables are lists of pairs, looked up by the first pair with a key.  These are the equations for
looking up in lists that are filtered by key, mapped, or made from what bears its own key.
-/

namespace Disposal.Assoc

variable {κ β γ : Type} [DecidableEq κ] {q : κ}

theorem lookup_cons_of_ne {entry : κ × β} {table : List (κ × β)} (h : q ≠ entry.1) :
    (entry :: table).lookup q = table.lookup q := by
  obtain ⟨name, b⟩ := entry
  rw [List.lookup_cons, beq_false_of_ne h]

theorem lookup_filter (p : κ → Bool) (table : List (κ × β)) (q : κ) :
    (table.filter fun entry => p entry.1).lookup q = if p q then table.lookup q else none := by
  induction table with
  | nil => simp
  | cons entry table ih =>
    obtain ⟨name, b⟩ := entry
    by_cases hp : p name
    · rw [List.filter_cons_of_pos (p := fun e : κ × β => p e.1) hp]
      by_cases hq : q = name
      · subst hq; simp [hp]
      · rw [lookup_cons_of_ne hq, lookup_cons_of_ne hq, ih]
    · rw [List.filter_cons_of_neg (p := fun e : κ × β => p e.1) hp, ih]
      split_ifs with hpq
      · have hq : q ≠ name := by rintro rfl; exact hp hpq
        rw [lookup_cons_of_ne hq]
      · rfl

theorem lookup_map (g : β → γ) (table : List (κ × β)) (q : κ) :
    (table.map fun entry => (entry.1, g entry.2)).lookup q = (table.lookup q).map g := by
  induction table with
  | nil => rfl
  | cons entry table ih =>
    obtain ⟨name, b⟩ := entry
    by_cases hq : q = name
    · subst hq; simp
    · rw [List.map_cons, lookup_cons_of_ne hq, lookup_cons_of_ne hq, ih]

/-- Looking up among things listed under their own keys finds the first with the key. -/
theorem lookup_keyed (key : β → κ) (bs : List β) (q : κ) :
    (bs.map fun b => (key b, b)).lookup q = bs.find? fun b => key b = q := by
  induction bs with
  | nil => rfl
  | cons b bs ih =>
    by_cases hq : key b = q
    · subst hq; simp
    · rw [List.map_cons, lookup_cons_of_ne (Ne.symm hq), List.find?_cons_of_neg (by simpa using hq),
        ih]

theorem mem_of_lookup {table : List (κ × β)} {b : β} (h : table.lookup q = some b) :
    (q, b) ∈ table := by
  obtain ⟨before, behind, rfl, -⟩ := List.lookup_eq_some_iff.1 h
  simp

theorem isSome_lookup {table : List (κ × β)} :
    (table.lookup q).isSome = true ↔ q ∈ table.map Prod.fst := by
  induction table with
  | nil => simp
  | cons entry table ih =>
    obtain ⟨name, b⟩ := entry
    by_cases hq : q = name
    · subst hq; simp
    · rw [lookup_cons_of_ne hq, ih, List.map_cons, List.mem_cons, or_iff_right hq]

theorem lookup_of_mem {table : List (κ × β)} (h : (table.map Prod.fst).Nodup) {b : β}
    (hb : (q, b) ∈ table) : table.lookup q = some b := by
  induction table with
  | nil => cases hb
  | cons entry table ih =>
    rw [List.map_cons, List.nodup_cons] at h
    rcases List.mem_cons.1 hb with rfl | hb
    · simp
    · have hq : q ≠ entry.1 := by
        intro heq
        exact h.1 (heq ▸ List.mem_map_of_mem hb)
      rw [lookup_cons_of_ne hq]
      exact ih h.2 hb

/-- What is found in a list without repeated keys does not depend on its order. -/
theorem lookup_perm {table other : List (κ × β)} (h : (table.map Prod.fst).Nodup)
    (hperm : table.Perm other) (q : κ) : table.lookup q = other.lookup q := by
  have hother : (other.map Prod.fst).Nodup := (hperm.map Prod.fst).nodup_iff.1 h
  ext b
  constructor
  · exact fun hb => lookup_of_mem hother (hperm.mem_iff.1 (mem_of_lookup hb))
  · exact fun hb => lookup_of_mem h (hperm.mem_iff.2 (mem_of_lookup hb))

/-- In a list without repeated keys, the pairs with a key are the one that is found. -/
theorem filter_key {table : List (κ × β)} (h : (table.map Prod.fst).Nodup) (q : κ) :
    (table.filter fun entry => entry.1 = q) = ((table.lookup q).map fun b => (q, b)).toList := by
  induction table with
  | nil => rfl
  | cons entry table ih =>
    obtain ⟨name, b⟩ := entry
    rw [List.map_cons, List.nodup_cons] at h
    by_cases hq : q = name
    · subst hq
      have hrest : table.lookup q = none := by
        rw [← Option.not_isSome_iff_eq_none, isSome_lookup]
        exact h.1
      simp [ih h.2, hrest]
    · rw [List.filter_cons_of_neg (by simpa using Ne.symm hq), lookup_cons_of_ne hq, ih h.2]

end Disposal.Assoc
