import Disposal.Model
import Disposal.Proofs.Assoc
import Disposal.Proofs.Walk

/-!
# Merging declarations into drafts

The table of drafts is filled declaration by declaration.  What it holds under one name depends
only on the declarations of that name: `Draft.step` is the effect of one declaration on one
entry, `Draft.Table.lookup_foldl_add` is the run, and `Draft.Table.lookup_ofDeclarations` gives
the entry in closed form: the first declaration with the accessibility, base lists and members
of all of them.  `Draft.Table.nodup_keys_ofDeclarations`: no name has two drafts.
-/

namespace Disposal

open Declaration Assoc

/-! ### The first explicit accessibility -/

namespace Accessibility

/-- The first accessibility that is written explicitly. -/
def firstExplicit (as : List Accessibility) : Accessibility :=
  (as.find? fun a => a ≠ .unspecified).getD .unspecified

@[simp] theorem firstExplicit_nil : firstExplicit [] = .unspecified := rfl

theorem firstExplicit_cons (a : Accessibility) (as : List Accessibility) :
    firstExplicit (a :: as) = a.orElse (firstExplicit as) := by
  by_cases ha : a = .unspecified
  · simp [firstExplicit, orElse, ha]
  · simp [firstExplicit, orElse, ha]

theorem orElse_assoc (a b c : Accessibility) : (a.orElse b).orElse c = a.orElse (b.orElse c) := by
  by_cases ha : a = .unspecified
  · simp [orElse, ha]
  · simp [orElse, ha]

@[simp] theorem orElse_unspecified (a : Accessibility) : a.orElse .unspecified = a := by
  by_cases ha : a = .unspecified
  · simp [orElse, ha]
  · simp [orElse, ha]

end Accessibility

namespace Draft

/-! ### One declaration -/

/-- The effect of a declaration on the draft of the type named `q`. -/
def step (q : String) (x : Option Draft) : Declaration → Option Draft
  | .type d => if d.qualifiedName = q then some (x.elim (ofDecl d) (·.merge d)) else x
  | .member owner scope m => if owner = q then x.map (·.addMember m scope) else x
  | .globalUsing _ => x
  | .unnamed _ => x

namespace Table

theorem lookup_addType (d : TypeDecl) (table : Table) (q : String) :
    (table.addType d).lookup q = step q (table.lookup q) (.type d) := by
  induction table with
  | nil =>
    by_cases hq : q = d.qualifiedName
    · subst hq; simp [addType, step]
    · rw [addType, lookup_cons_of_ne hq, step, if_neg (Ne.symm hq)]
  | cons entry table ih =>
    obtain ⟨name, draft⟩ := entry
    rw [addType]
    split_ifs with hname
    · by_cases hq : q = name
      · subst hq; simp [step, hname]
      · have hd : d.qualifiedName ≠ q := hname ▸ Ne.symm hq
        rw [lookup_cons_of_ne hq, lookup_cons_of_ne hq, step, if_neg hd]
    · by_cases hq : q = name
      · subst hq; simp [step, Ne.symm hname]
      · rw [lookup_cons_of_ne hq, lookup_cons_of_ne hq]
        exact ih

theorem lookup_addMember (owner : String) (m : MemberDecl) (scope : Scope) (table : Table)
    (q : String) :
    (table.addMember owner m scope).lookup q = step q (table.lookup q) (.member owner scope m) := by
  induction table with
  | nil => simp [addMember, step]
  | cons entry table ih =>
    obtain ⟨name, draft⟩ := entry
    simp only [addMember, List.map_cons] at ih ⊢
    by_cases hq : q = name
    · subst hq
      by_cases howner : q = owner
      · simp [step, howner]
      · simp [step, howner, Ne.symm howner]
    · have hkey : q ≠
          (if name = owner then (name, draft.addMember m scope) else (name, draft)).1 := by
        split_ifs <;> exact hq
      rw [lookup_cons_of_ne hkey, lookup_cons_of_ne hq]
      exact ih

theorem lookup_add (table : Table) (d : Declaration) (q : String) :
    (table.add d).lookup q = step q (table.lookup q) d := by
  cases d with
  | type d => exact lookup_addType d table q
  | member owner scope m => exact lookup_addMember owner m scope table q
  | globalUsing target => rfl
  | unnamed kind => rfl

theorem lookup_foldl_add (table : Table) (ds : List Declaration) (q : String) :
    (ds.foldl add table).lookup q = ds.foldl (step q) (table.lookup q) := by
  induction ds generalizing table with
  | nil => rfl
  | cons d ds ih => rw [List.foldl_cons, List.foldl_cons, ih, lookup_add]

end Table

/-! ### All declarations of one name -/

/-- A draft with the further declarations and members of the type named `q`. -/
def extend (q : String) (draft : Draft) (ds : List Declaration) : Draft :=
  { draft with
    accessibility := draft.accessibility.orElse
      (.firstExplicit ((typesOf q ds).map TypeDecl.accessibility))
    isPartial := draft.isPartial || (typesOf q ds).any TypeDecl.isPartial
    bases := draft.bases ++ (typesOf q ds).flatMap basesOf
    members := draft.members ++ membersIn q ds }

theorem foldl_step_some (q : String) (draft : Draft) (ds : List Declaration) :
    ds.foldl (step q) (some draft) = some (draft.extend q ds) := by
  induction ds generalizing draft with
  | nil => simp [extend]
  | cons d ds ih =>
    rw [List.foldl_cons]
    cases d with
    | type d =>
      by_cases hq : d.qualifiedName = q
      · simp [step, hq, ih, extend, merge, typesOf_cons_self hq, Accessibility.firstExplicit_cons,
          Accessibility.orElse_assoc, Bool.or_assoc]
      · simp [step, hq, ih, extend, typesOf_cons_of_ne hq]
    | member owner scope m =>
      by_cases hq : owner = q
      · simp [step, hq, ih, extend, addMember, membersIn_cons_member]
      · simp [step, hq, ih, extend, membersIn_cons_member]
    | globalUsing target => simp [step, ih, extend]
    | unnamed kind => simp [step, ih, extend]

/-- The draft of the type named `q` after some declarations: names, kind and place are those of
the first declaration. -/
def merged (q : String) (ds : List Declaration) : Option Draft :=
  match typesOf q ds with
  | [] => none
  | first :: rest => some
    { ofDecl first with
      accessibility := .firstExplicit ((first :: rest).map TypeDecl.accessibility)
      isPartial := (first :: rest).any TypeDecl.isPartial
      bases := (first :: rest).flatMap basesOf
      members := membersIn q ds }

/-- Before the first declaration of `q` nothing is recorded under its name, because members
follow their types. -/
theorem foldl_step_none {q : String} {seen : List String} (hq : q ∉ seen) {ds : List Declaration}
    (hds : Owned seen ds) : ds.foldl (step q) none = merged q ds := by
  induction ds generalizing seen with
  | nil => rfl
  | cons d ds ih =>
    rw [List.foldl_cons]
    cases d with
    | type d =>
      by_cases hd : d.qualifiedName = q
      · -- the first declaration of `q`: from here on its draft is only extended
        simp [step, hd, foldl_step_some, merged, extend, typesOf_cons_self hd, ofDecl,
          Accessibility.firstExplicit_cons]
      · have hseen : q ∉ d.qualifiedName :: seen := by simp [hq, Ne.symm hd]
        simp [step, hd, ih hseen hds, merged, typesOf_cons_of_ne hd]
    | member owner scope m =>
      -- a type whose member comes was seen
      have howner : owner ≠ q := fun h => hq (h ▸ hds.1)
      simp [step, ih hq hds.2, merged, membersIn_cons_member, howner]
    | globalUsing target => simp [step, ih hq hds, merged]
    | unnamed kind => simp [step, ih hq hds, merged]

/-- **The draft of a name** is put together from the declarations of that name. -/
theorem Table.lookup_ofDeclarations {ds : List Declaration} (h : Owned [] ds) (q : String) :
    (Table.ofDeclarations ds).lookup q = merged q ds := by
  rw [Table.ofDeclarations, lookup_foldl_add]
  exact foldl_step_none List.not_mem_nil h

theorem isSome_merged (q : String) (ds : List Declaration) :
    (merged q ds).isSome = !(typesOf q ds).isEmpty := by
  unfold merged
  split <;> simp_all

/-! ### One draft for each name -/

namespace Table

theorem keys_addType (d : TypeDecl) (table : Table) :
    (table.addType d).map Prod.fst =
      if d.qualifiedName ∈ table.map Prod.fst then table.map Prod.fst
      else table.map Prod.fst ++ [d.qualifiedName] := by
  induction table with
  | nil => simp [addType]
  | cons entry table ih =>
    obtain ⟨name, draft⟩ := entry
    rw [addType]
    by_cases hname : name = d.qualifiedName
    · simp [hname]
    · rw [if_neg hname, List.map_cons, ih]
      simp only [List.map_cons, List.mem_cons, Ne.symm hname, false_or]
      split_ifs <;> rfl

theorem keys_addMember (owner : String) (m : MemberDecl) (scope : Scope) (table : Table) :
    (table.addMember owner m scope).map Prod.fst = table.map Prod.fst := by
  rw [addMember, List.map_map]
  refine List.map_congr_left fun entry _ => ?_
  simp only [Function.comp_apply]
  split_ifs <;> rfl

theorem nodup_keys_add {table : Table} (h : (table.map Prod.fst).Nodup) (d : Declaration) :
    ((table.add d).map Prod.fst).Nodup := by
  cases d with
  | type d =>
    rw [add, keys_addType]
    split_ifs with hmem
    · exact h
    · rw [List.nodup_append]
      simp only [List.mem_singleton]
      refine ⟨h, by simp, fun name hname _ hd heq => hmem (hd ▸ heq ▸ hname)⟩
  | member owner scope m => rwa [add, keys_addMember]
  | globalUsing target => exact h
  | unnamed kind => exact h

/-- **No name is listed twice**, whatever is declared in whatever order. -/
theorem nodup_keys_ofDeclarations (ds : List Declaration) :
    ((ofDeclarations ds).map Prod.fst).Nodup := by
  have hrun : ∀ table : Table, (table.map Prod.fst).Nodup →
      ((ds.foldl add table).map Prod.fst).Nodup := by
    induction ds with
    | nil => exact fun _ h => h
    | cons d ds ih => exact fun table h => ih _ (nodup_keys_add h d)
  exact hrun [] List.nodup_nil

end Table

end Draft

end Disposal
