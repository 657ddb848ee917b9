import Disposal.Proofs.Assoc
import Disposal.Resolution
import Mathlib.Data.List.Nodup

/-!
# Resolving without cancellation

The resolver goes through the candidates and remembers the names that have a work item.  What it
finds can be said without that memory: `Provider.workOf?` is the work of one candidate on its
own, and the outcome is what the candidates give one by one, each name kept where it comes first
(`Provider.resolved?_resolve`).

* `firstBy` keeps the first entry of every name;
* `Provider.workOf?_eq_some` says when a candidate gives work.
-/

namespace Disposal

/-! ### The first of every name -/

/-- The entries whose names are not among `seen`, every name where it comes first. -/
def firstBy {α : Type} (name : α → String) : (seen : List String) → List α → List α
  | _, [] => []
  | seen, x :: xs =>
    if seen.contains (name x) then firstBy name seen xs
    else x :: firstBy name (name x :: seen) xs

section

variable {α : Type} {name : α → String}

theorem firstBy_sublist (seen : List String) (xs : List α) :
    (firstBy name seen xs).Sublist xs := by
  induction xs generalizing seen with
  | nil => exact .slnil
  | cons x xs ih =>
    rw [firstBy]
    split_ifs
    · exact (ih _).cons _
    · exact (ih _).cons_cons _

theorem mem_map_firstBy {seen : List String} {xs : List α} {q : String} :
    q ∈ (firstBy name seen xs).map name ↔ q ∈ xs.map name ∧ q ∉ seen := by
  induction xs generalizing seen with
  | nil => simp [firstBy]
  | cons x xs ih =>
    rw [firstBy]
    split_ifs with hx
    · have hx : name x ∈ seen := by simpa using hx
      rw [ih, List.map_cons, List.mem_cons]
      constructor
      · rintro ⟨hq, hseen⟩
        exact ⟨.inr hq, hseen⟩
      · rintro ⟨rfl | hq, hseen⟩
        · exact absurd hx hseen
        · exact ⟨hq, hseen⟩
    · have hx : name x ∉ seen := by simpa using hx
      rw [List.map_cons, List.mem_cons, ih, List.map_cons, List.mem_cons, List.mem_cons, not_or]
      constructor
      · rintro (rfl | ⟨hq, -, hseen⟩)
        · exact ⟨.inl rfl, hx⟩
        · exact ⟨.inr hq, hseen⟩
      · rintro ⟨rfl | hq, hseen⟩
        · exact .inl rfl
        · by_cases hqx : q = name x
          · exact .inl hqx
          · exact .inr ⟨hq, hqx, hseen⟩

theorem nodup_map_firstBy (seen : List String) (xs : List α) :
    ((firstBy name seen xs).map name).Nodup := by
  induction xs generalizing seen with
  | nil => exact List.nodup_nil
  | cons x xs ih =>
    rw [firstBy]
    split_ifs
    · exact ih seen
    · rw [List.map_cons, List.nodup_cons]
      refine ⟨fun h => ?_, ih _⟩
      exact (mem_map_firstBy.1 h).2 List.mem_cons_self

end

/-! ### The work of one candidate -/

/-- A type is not passed over if it is a class in a namespace and in no other type. -/
theorem skipReason_eq_none {t : TypeSymbol} : SkipReason.of? t = none ↔
    t.kind = .classType ∧ t.containingType = none ∧ t.namespaceName ≠ "" := by
  rw [SkipReason.of?]
  cases t.containingType with
  | none => by_cases hkind : t.kind = .classType <;> simp [hkind]
  | some outer => by_cases hkind : t.kind = .classType <;> simp [hkind]

namespace Provider

variable {ν : Type} {P : Provider ν} {interface : TypeSymbol}

/-- The work that a candidate gives when nothing was found before. -/
def workOf? (P : Provider ν) (interface : TypeSymbol) (node : ν) :
    Option (WorkItem × TypeSymbol × ν) :=
  (P.judge interface [] node).work?

/-- The name of the type that a piece of work is for. -/
def workName (work : WorkItem × TypeSymbol × ν) : String := work.2.1.qualifiedName

/-- A candidate gives work if it declares a type of the right kind and place that implements the
interface and has no `Dispose()` of its own. -/
theorem workOf?_eq_some {node : ν} {work : WorkItem × TypeSymbol × ν} :
    P.workOf? interface node = some work ↔
      ∃ t, P.declaration? node = some t ∧ SkipReason.of? t = none ∧
        P.implements t interface = true ∧ hasDisposeMethod (P.members t) = false ∧
        (P.workItem t interface, t, node) = work := by
  rw [workOf?, judge]
  cases hdecl : P.declaration? node with
  | none => simp [Verdict.work?]
  | some t =>
    cases hskip : SkipReason.of? t with
    | some reason => simp [Verdict.work?, hskip]
    | none =>
      cases himpl : P.implements t interface with
      | false => simp [Verdict.work?, hskip, himpl]
      | true =>
        cases hdispose : hasDisposeMethod (P.members t) with
        | true => simp [Verdict.work?, hskip, himpl, hdispose]
        | false => simp [Verdict.work?, hskip, himpl, hdispose]

theorem work?_judge (seen : List String) (node : ν) :
    (P.judge interface seen node).work? =
      (P.workOf? interface node).filter fun work => !seen.contains (workName work) := by
  rw [workOf?, judge, judge]
  cases P.declaration? node with
  | none => rfl
  | some t =>
    cases hskip : SkipReason.of? t with
    | some reason => simp [Verdict.work?, hskip]
    | none =>
      -- the memory is asked before the interface and the members
      by_cases hseen : t.qualifiedName ∈ seen
      · simp only [hskip, List.contains_iff_mem, hseen, ↓reduceIte, List.contains_nil,
          Bool.false_eq_true]
        split_ifs <;> simp [Verdict.work?, workName, Option.filter, hseen]
      · simp only [hskip, List.contains_iff_mem, hseen, ↓reduceIte, List.not_mem_nil]
        split_ifs <;> simp [Verdict.work?, workName, Option.filter, hseen]

theorem seenAfter_judge (seen : List String) (node : ν) :
    (P.judge interface seen node).seenAfter seen =
      match (P.judge interface seen node).work? with
      | some work => workName work :: seen
      | none => seen := by
  cases P.judge interface seen node <;> rfl

/-! ### All candidates -/

/-- **A run that is never cancelled** gives every candidate a verdict; its work is what the
candidates give one by one, without repeated names. -/
theorem resolveFrom_never (P : Provider ν) (interface : TypeSymbol) (asked : Nat)
    (seen : List String) (nodes : List ν) :
    ∃ verdicts, P.resolveFrom interface .never asked seen nodes = .complete verdicts ∧
      verdicts.filterMap Verdict.work? =
        firstBy workName seen (nodes.filterMap (P.workOf? interface)) := by
  induction nodes generalizing asked seen with
  | nil => exact ⟨[], rfl, rfl⟩
  | cons node nodes ih =>
    obtain ⟨verdicts, hrun, hwork⟩ :=
      ih (asked + 1) ((P.judge interface seen node).seenAfter seen)
    refine ⟨P.judge interface seen node :: verdicts, ?_, ?_⟩
    · show (P.resolveFrom interface .never (asked + 1) _ nodes).cons _ = _
      rw [hrun, Resolution.cons]
    · rw [List.filterMap_cons, hwork, seenAfter_judge, work?_judge, List.filterMap_cons]
      cases P.workOf? interface node with
      | none => rfl
      | some work =>
        by_cases hseen : workName work ∈ seen
        · simp [firstBy, Option.filter, hseen]
        · simp [firstBy, Option.filter, hseen]

/-- **The outcome of resolving.** -/
theorem resolved?_resolve (candidates : List ν) (interfaceName : String) :
    (P.resolve candidates interfaceName).resolved? = some
      ((P.typeNamed? interfaceName).elim [] fun interface =>
        firstBy workName [] (candidates.filterMap (P.workOf? interface))) := by
  rw [resolve]
  cases P.typeNamed? interfaceName with
  | none => rfl
  | some interface =>
    obtain ⟨verdicts, hrun, hwork⟩ := P.resolveFrom_never interface 0 [] candidates
    simp only [hrun, Resolution.resolved?, hwork, Option.elim_some]

end Provider

end Disposal
