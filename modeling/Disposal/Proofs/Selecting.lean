import Disposal.Framework
import Disposal.Proofs.Cancelling
import Disposal.TypeGraph

/-!
# Resolving as a selection

What the resolver finds, said without its loop: of the types that the candidates declare, those
that need code are selected, each name where it comes first.  This holds for the answers of any
provider.

* `Provider.NeedsCode` are the conditions on a type, `Provider.selected` is the selection;
* `Provider.resolved?_eq_selected` says that the resolver finds the selected types;
* `Provider.resolveCalling_eq` says which calls a run makes that hands each work item to its caller
  as soon as it is found, in any monad;
* `Provider.perm_selected`: if names tell types apart, the order of the candidates only matters for
  the order of the types.
-/

namespace Disposal

/-! ### The first of every name -/

section

variable {α β : Type} {name : α → String}

/-- Keeping the first entry of every name is erasing the later entries with the same name. -/
theorem firstBy_eq_eraseDupsBy (seen : List String) (xs : List α) :
    firstBy name seen xs = (xs.filter fun x => !seen.contains (name x)).eraseDupsBy
      fun x y => name x == name y := by
  induction xs generalizing seen with
  | nil => rfl
  | cons x xs ih =>
    rw [firstBy]
    cases hx : seen.contains (name x) with
    | true => rw [if_pos rfl, ih, List.filter_cons_of_neg (by rw [hx]; decide)]
    | false =>
      rw [if_neg Bool.false_ne_true, ih, List.filter_cons_of_pos (by rw [hx]; rfl),
        List.eraseDupsBy_cons, List.filter_filter]
      -- what is not seen later is neither the name of `x` nor seen before
      congr 3
      funext y
      by_cases hy : name y = name x <;> simp [hy]

theorem firstBy_map (g : β → α) (seen : List String) (xs : List β) :
    firstBy name seen (xs.map g) = (firstBy (name ∘ g) seen xs).map g := by
  induction xs generalizing seen with
  | nil => rfl
  | cons x xs ih =>
    rw [List.map_cons, firstBy, firstBy]
    simp only [Function.comp_apply, ih]
    split_ifs
    · rfl
    · rw [List.map_cons]

end

namespace Provider

variable {ν : Type} {P : Provider ν} {interface : TypeSymbol} {interfaceName : String}

/-! ### Selected types -/

/-- The conditions on a type to get code: it is a class in a namespace and in no other type, it has
the disposal interface among its interfaces, and it declares no method `void Dispose()`. -/
structure NeedsCode (P : Provider ν) (interface t : TypeSymbol) : Prop where
  kind : t.kind = .classType
  outermost : t.containingType = none
  inNamespace : t.namespaceName ≠ ""
  implements : ∃ i ∈ P.interfaces t, i.Same interface
  undisposed : ∀ m ∈ P.members t, ¬ (m.kind = .method ∧ m.name = disposeMethod ∧
    m.parameterCount = 0 ∧ m.typeParameterCount = 0 ∧ m.returnsVoid = true)

theorem needsCode_iff {t : TypeSymbol} : P.NeedsCode interface t ↔
    SkipReason.of? t = none ∧ P.implements t interface = true ∧
      hasDisposeMethod (P.members t) = false := by
  have himplements : P.implements t interface = true ↔ ∃ i ∈ P.interfaces t, i.Same interface := by
    simp [Provider.implements]
  have hdispose : hasDisposeMethod (P.members t) = false ↔ ∀ m ∈ P.members t,
      ¬ (m.kind = .method ∧ m.name = disposeMethod ∧ m.parameterCount = 0 ∧
        m.typeParameterCount = 0 ∧ m.returnsVoid = true) := by
    simp [hasDisposeMethod, hasCleanupHook, MemberSymbol.isParameterlessVoid, and_assoc]
  rw [skipReason_eq_none, himplements, hdispose]
  constructor
  · intro h
    exact ⟨⟨h.kind, h.outermost, h.inNamespace⟩, h.implements, h.undisposed⟩
  · rintro ⟨⟨hkind, houtermost, hnamespace⟩, himplements, hundisposed⟩
    exact ⟨hkind, houtermost, hnamespace, himplements, hundisposed⟩

instance (P : Provider ν) (interface t : TypeSymbol) : Decidable (P.NeedsCode interface t) :=
  decidable_of_iff _ needsCode_iff.symm

/-- The types that some candidates declare, with the candidates. -/
def declared (P : Provider ν) (candidates : List ν) : List (TypeSymbol × ν) :=
  candidates.filterMap fun c => (P.declaration? c).map fun t => (t, c)

/-- The types that get code with their first candidates: those declared by the candidates that need
it, without the later ones of a name. -/
def selected (P : Provider ν) (interface : TypeSymbol) (candidates : List ν) :
    List (TypeSymbol × ν) :=
  ((P.declared candidates).filter fun d => decide (P.NeedsCode interface d.1)).eraseDupsBy
    fun d e => d.1.qualifiedName == e.1.qualifiedName

/-- The work for a selected type. -/
def workFor (P : Provider ν) (interface : TypeSymbol) (d : TypeSymbol × ν) :
    WorkItem × TypeSymbol × ν :=
  (P.workItem d.1 interface, d.1, d.2)

/-- The work of a candidate on its own is that for the type it declares, if that needs code. -/
theorem workOf?_eq_workFor (node : ν) :
    P.workOf? interface node = (P.declaration? node).bind fun t =>
      if P.NeedsCode interface t then some (P.workFor interface (t, node)) else none := by
  ext work
  rw [workOf?_eq_some, Option.bind_eq_some_iff]
  refine exists_congr fun t => and_congr_right fun _ => ?_
  rw [Option.ite_none_right_eq_some, needsCode_iff, Option.some.injEq, and_assoc, and_assoc]
  rfl

theorem filterMap_workOf? (candidates : List ν) :
    candidates.filterMap (P.workOf? interface) =
      ((P.declared candidates).filter fun d => decide (P.NeedsCode interface d.1)).map
        (P.workFor interface) := by
  induction candidates with
  | nil => rfl
  | cons c candidates ih =>
    rw [List.filterMap_cons, workOf?_eq_workFor, ih, declared, declared, List.filterMap_cons]
    cases P.declaration? c with
    | none => rfl
    | some t =>
      by_cases ht : P.NeedsCode interface t
      · simp [ht]
      · simp [ht]

theorem selected_eq_firstBy (candidates : List ν) : P.selected interface candidates =
    firstBy (fun d => d.1.qualifiedName) []
      ((P.declared candidates).filter fun d => decide (P.NeedsCode interface d.1)) := by
  rw [firstBy_eq_eraseDupsBy, selected]
  simp

/-- **The resolver finds the selected types.** -/
theorem resolved?_eq_selected (h : P.typeNamed? interfaceName = some interface)
    (candidates : List ν) : (P.resolve candidates interfaceName).resolved? =
      some ((P.selected interface candidates).map (P.workFor interface)) := by
  rw [resolved?_resolve, h, Option.elim_some, filterMap_workOf?, firstBy_map, selected_eq_firstBy]
  rfl

/-! ### Calls on the way -/

section

variable {m : Type → Type} [Monad m] [LawfulMonad m] (onItem : WorkItem → TypeSymbol → ν → m Unit)

/-- A run makes one call for each verdict that is work, in their order, and no others. -/
theorem resolveCallingFrom_eq (seen : List String) (nodes : List ν) :
    P.resolveCallingFrom interface onItem seen nodes = do
      ((P.verdicts interface seen nodes).filterMap Verdict.work?).forM
        fun work => onItem work.1 work.2.1 work.2.2
      return .complete (P.verdicts interface seen nodes) := by
  induction nodes generalizing seen with
  | nil => simp [resolveCallingFrom, verdicts]
  | cons node nodes ih =>
    rw [resolveCallingFrom, verdicts, List.filterMap_cons]
    simp only [ih]
    cases (P.judge interface seen node).work? with
    | none => simp [Resolution.cons]
    | some work => simp [Resolution.cons]

/-- **The calls of a run** are those for the selected types. -/
theorem resolveCalling_eq (h : P.typeNamed? interfaceName = some interface)
    (candidates : List ν) :
    P.resolveCalling candidates interfaceName onItem = do
      (P.selected interface candidates).forM
        fun d => onItem (P.workItem d.1 interface) d.1 d.2
      return P.resolve candidates interfaceName := by
  have hrun : P.resolve candidates interfaceName =
      .complete (P.verdicts interface [] candidates) := by
    rw [resolve_eq h, Cancellation.firstYes?_never]
  have hfound := resolved?_eq_selected h candidates
  rw [hrun, Resolution.resolved?, Option.some.injEq] at hfound
  rw [hrun, resolveCalling, h]
  simp only [resolveCallingFrom_eq, hfound, List.forM_eq_forM, List.forM_map, workFor]

end

/-! ### Other orders -/

/-- Names tell the declared types apart: two candidates that declare types of one name declare the
same type. -/
def NamesTellApart (P : Provider ν) : Prop :=
  ∀ c c' t t', P.declaration? c = some t → P.declaration? c' = some t' →
    t.qualifiedName = t'.qualifiedName → t = t'

theorem mem_declared {candidates : List ν} {d : TypeSymbol × ν} :
    d ∈ P.declared candidates ↔ d.2 ∈ candidates ∧ P.declaration? d.2 = some d.1 := by
  obtain ⟨t, c⟩ := d
  simp only [declared, List.mem_filterMap, Option.map_eq_some_iff, Prod.mk.injEq]
  constructor
  · rintro ⟨c', hc, t', ht, rfl, rfl⟩
    exact ⟨hc, ht⟩
  · rintro ⟨hc, ht⟩
    exact ⟨c, hc, t, ht, rfl, rfl⟩

theorem nodup_selected (candidates : List ν) :
    ((P.selected interface candidates).map Prod.fst).Nodup := by
  refine List.Nodup.of_map TypeSymbol.qualifiedName ?_
  rw [List.map_map, selected_eq_firstBy]
  exact nodup_map_firstBy _ _

/-- If names tell types apart, every declared type that needs code is selected. -/
theorem mem_selected (hnames : P.NamesTellApart) {candidates : List ν} {t : TypeSymbol} :
    t ∈ (P.selected interface candidates).map Prod.fst ↔
      P.NeedsCode interface t ∧ ∃ c ∈ candidates, P.declaration? c = some t := by
  have hkept : ∀ d ∈ P.selected interface candidates, P.NeedsCode interface d.1 ∧
      d.2 ∈ candidates ∧ P.declaration? d.2 = some d.1 := by
    intro d hd
    rw [selected_eq_firstBy] at hd
    obtain ⟨hdeclared, hneeds⟩ := List.mem_filter.1 ((firstBy_sublist _ _).subset hd)
    exact ⟨of_decide_eq_true hneeds, mem_declared.1 hdeclared⟩
  constructor
  · intro ht
    obtain ⟨d, hd, rfl⟩ := List.mem_map.1 ht
    obtain ⟨hneeds, hc, hdecl⟩ := hkept d hd
    exact ⟨hneeds, d.2, hc, hdecl⟩
  · rintro ⟨hneeds, c, hc, hdecl⟩
    have hname : t.qualifiedName ∈ (P.selected interface candidates).map
        fun d => d.1.qualifiedName := by
      rw [selected_eq_firstBy, mem_map_firstBy]
      refine ⟨List.mem_map.2 ⟨(t, c), List.mem_filter.2 ⟨mem_declared.2 ⟨hc, hdecl⟩, ?_⟩, rfl⟩, ?_⟩
      · exact decide_eq_true hneeds
      · exact List.not_mem_nil
    -- the type that is kept under the name is the same
    obtain ⟨d, hd, hsame⟩ := List.mem_map.1 hname
    obtain rfl : d.1 = t := hnames d.2 c d.1 t (hkept d hd).2.2 hdecl hsame
    exact List.mem_map_of_mem hd

/-- **The order of the candidates, and how often each of them comes, only matters for the order of
the selected types.** -/
theorem perm_selected (hnames : P.NamesTellApart) {candidates others : List ν}
    (h : ∀ c, c ∈ others ↔ c ∈ candidates) :
    ((P.selected interface candidates).map Prod.fst).Perm
      ((P.selected interface others).map Prod.fst) := by
  rw [List.perm_ext_iff_of_nodup (nodup_selected _) (nodup_selected _)]
  intro t
  rw [mem_selected hnames, mem_selected hnames]
  simp only [h]

/-- **Resolving is selecting.**  For a known disposal interface, the work items are those of the
selected types; the caller gets each of them once, in their order, with its type and its first
candidate, whatever the calls do; and if names tell types apart, other orders and repetitions of
the candidates only change the order of the work items. -/
theorem resolve_selects (P : Provider ν) (candidates : List ν) (interfaceName : String)
    (interface : TypeSymbol) (h : P.typeNamed? interfaceName = some interface) :
    (P.resolve candidates interfaceName).items? =
      some ((P.selected interface candidates).map fun d => P.workItem d.1 interface) ∧
    (P.resolve candidates interfaceName).resolved? =
      some ((P.selected interface candidates).map (P.workFor interface)) ∧
    (∀ {m : Type → Type} [Monad m] [LawfulMonad m] (onItem : WorkItem → TypeSymbol → ν → m Unit),
      P.resolveCalling candidates interfaceName onItem = do
        (P.selected interface candidates).forM
          fun d => onItem (P.workItem d.1 interface) d.1 d.2
        return P.resolve candidates interfaceName) ∧
    (P.NamesTellApart → ∀ others : List ν, (∀ c, c ∈ others ↔ c ∈ candidates) →
      ∃ items items', (P.resolve candidates interfaceName).items? = some items ∧
        (P.resolve others interfaceName).items? = some items' ∧ items.Perm items') := by
  have hitems : ∀ candidates : List ν, (P.resolve candidates interfaceName).items? =
      some (((P.selected interface candidates).map Prod.fst).map fun t =>
        P.workItem t interface) := by
    intro candidates
    rw [Resolution.items?, resolved?_eq_selected h, Option.map_some, List.map_map, List.map_map]
    rfl
  refine ⟨?_, resolved?_eq_selected h candidates,
    fun onItem => resolveCalling_eq onItem h candidates, fun hnames others hothers => ?_⟩
  · rw [hitems, List.map_map]
    rfl
  · exact ⟨_, _, hitems candidates, hitems others, (perm_selected hnames hothers).map _⟩

/-- Three classes in a namespace, of which the last declares `void Dispose()` itself.  One of them
is declared by two candidates. -/
def sampleGraph : TypeGraph where
  types := [Framework.interfaceOf "System" "IDisposable" [],
    Framework.classOf "N" "A" ["System.IDisposable"], Framework.classOf "N" "B" ["N.A"],
    Framework.classOf "N" "C" ["N.A"]].map fun t => (t.qualifiedName, t)
  memberLog := [("N.C", { name := "Dispose", kind := .method, returnsVoid := true })]
  bindings := [("a", "N.A"), ("a'", "N.A"), ("b", "N.B"), ("c", "N.C")]

theorem resolve_selects_sampleGraph :
    sampleGraph.provider.typeNamed? "System.IDisposable" =
      some (Framework.interfaceOf "System" "IDisposable" []) ∧
    sampleGraph.provider.NamesTellApart ∧
    ∃ items items',
      (sampleGraph.provider.resolve ["b", "a'", "c", "a", "b"] "System.IDisposable").items? =
        some items ∧
      items.map WorkItem.qualifiedName = ["N.B", "N.A"] ∧
      ((sampleGraph.provider.resolveCalling ["b", "a'", "c", "a", "b"] "System.IDisposable"
        fun item _ c => modify fun calls => calls ++ [(item.className, c)] :
          StateM (List (String × String)) _).run []).2 = [("B", "b"), ("A", "a'")] ∧
      (sampleGraph.provider.resolve ["a", "a'", "b", "c"] "System.IDisposable").items? =
        some items' ∧
      items.Perm items' := by
  have hinterface : sampleGraph.provider.typeNamed? "System.IDisposable" =
      some (Framework.interfaceOf "System" "IDisposable" []) := by decide
  have hnames : sampleGraph.provider.NamesTellApart := by
    have hlisted : ∀ entry ∈ sampleGraph.types, ∀ entry' ∈ sampleGraph.types,
        entry.2.qualifiedName = entry'.2.qualifiedName → entry.2 = entry'.2 := by decide
    intro c c' t t' hc hc'
    obtain ⟨q, -, ht⟩ := Option.bind_eq_some_iff.1 hc
    obtain ⟨q', -, ht'⟩ := Option.bind_eq_some_iff.1 hc'
    exact hlisted _ (Assoc.mem_of_lookup ht) _ (Assoc.mem_of_lookup ht')
  have hfound : ((sampleGraph.provider.resolve ["b", "a'", "c", "a", "b"]
      "System.IDisposable").items?.map fun items => items.map WorkItem.qualifiedName) =
        some ["N.B", "N.A"] := by decide
  obtain ⟨-, -, hcalls, hperm⟩ := resolve_selects sampleGraph.provider
    ["b", "a'", "c", "a", "b"] "System.IDisposable" _ hinterface
  obtain ⟨items, items', hrun, hrun', hpermuted⟩ :=
    hperm hnames ["a", "a'", "b", "c"] (by simp; tauto)
  refine ⟨hinterface, hnames, items, items', hrun, ?_, ?_, hrun', hpermuted⟩
  · rw [hrun] at hfound
    exact Option.some.inj hfound
  · rw [hcalls]
    decide

end Provider

end Disposal
