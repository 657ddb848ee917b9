import Disposal.Pass
import Disposal.Proofs.Resolving

/-!
# Cancelling a pass

The host is asked before each candidate whether to cancel, and the first yes ends the pass.  All
that a pass hands out comes after the last question, so a cancelled pass leaves nothing behind and
any other pass is the pass that is never cancelled.

* `Cancellation.firstYes?` is the question that ends a pass, `Cancellation.calls` how many
  questions there are;
* `Provider.verdicts` are the verdicts without a host, and `Provider.resolveFrom_eq` says what a
  host makes of them;
* `Provider.run_resolveAsking` says that the run with the questions counted as they are asked comes
  to the same.

The main statement puts it together for a pass.
-/

namespace Disposal

/-! ### Questions to the host -/

namespace Cancellation

/-- The answers of a host that was asked some times before. -/
def after (cancel : Cancellation) (asked : Nat) : Cancellation := fun k => cancel (asked + k)

/-- The first of `n` questions that is answered with yes. -/
def firstYes? (cancel : Cancellation) (n : Nat) : Option Nat := (List.range n).find? cancel

/-- How often a host is asked when there are up to `n` questions and the first yes ends them. -/
def calls (cancel : Cancellation) (n : Nat) : Nat :=
  match cancel.firstYes? n with
  | some k => k + 1
  | none => n

theorem after_zero (cancel : Cancellation) : cancel.after 0 = cancel := by
  funext k
  rw [after, Nat.zero_add]

theorem after_succ (cancel : Cancellation) (asked : Nat) :
    (cancel.after asked).after 1 = cancel.after (asked + 1) := by
  funext k
  rw [after, after, after, Nat.add_assoc]

theorem firstYes?_succ (cancel : Cancellation) (n : Nat) :
    cancel.firstYes? (n + 1) =
      if cancel 0 then some 0 else ((cancel.after 1).firstYes? n).map Nat.succ := by
  have hlater : cancel ∘ Nat.succ = cancel.after 1 := by
    funext k
    exact congrArg cancel (Nat.add_comm k 1)
  rw [firstYes?, firstYes?, List.range_succ_eq_map]
  cases hfirst : cancel 0 with
  | true => simp [hfirst]
  | false =>
    rw [List.find?_cons_of_neg (by simp [hfirst]), List.find?_map, hlater]
    simp

theorem calls_succ (cancel : Cancellation) (n : Nat) :
    cancel.calls (n + 1) = if cancel 0 then 1 else (cancel.after 1).calls n + 1 := by
  rw [calls, firstYes?_succ, calls]
  split_ifs
  · rfl
  · cases (cancel.after 1).firstYes? n <;> rfl

theorem isSome_firstYes? {cancel : Cancellation} {n : Nat} :
    (cancel.firstYes? n).isSome ↔ ∃ k < n, cancel k = true := by
  simp [firstYes?]

theorem lt_of_firstYes? {cancel : Cancellation} {n k : Nat} (h : cancel.firstYes? n = some k) :
    k < n := by
  simpa using List.mem_of_find?_eq_some h

@[simp] theorem firstYes?_never (n : Nat) : never.firstYes? n = none := by
  simp [firstYes?, never]

end Cancellation

/-! ### Resolving with a host -/

namespace Provider

variable {ν : Type} {P : Provider ν} {interface : TypeSymbol} {cancel : Cancellation}

/-- The verdicts on some candidates one after the other, without a host. -/
def verdicts (P : Provider ν) (interface : TypeSymbol) :
    (seen : List String) → List ν → List (Verdict ν)
  | _, [] => []
  | seen, node :: nodes =>
    let v := P.judge interface seen node
    v :: verdicts P interface (v.seenAfter seen) nodes

@[simp] theorem length_verdicts (seen : List String) (nodes : List ν) :
    (P.verdicts interface seen nodes).length = nodes.length := by
  induction nodes generalizing seen with
  | nil => rfl
  | cons node nodes ih => rw [verdicts, List.length_cons, List.length_cons, ih]

/-- **What a host does to a run**: the first yes ends it, with the verdicts on the candidates
before; without a yes every candidate has its verdict. -/
theorem resolveFrom_eq (asked : Nat) (seen : List String) (nodes : List ν) :
    P.resolveFrom interface cancel asked seen nodes =
      match (cancel.after asked).firstYes? nodes.length with
      | some k => .cancelled (P.verdicts interface seen (nodes.take k))
      | none => .complete (P.verdicts interface seen nodes) := by
  induction nodes generalizing asked seen with
  | nil => rfl
  | cons node nodes ih =>
    rw [resolveFrom, List.length_cons, Cancellation.firstYes?_succ, Cancellation.after_succ]
    cases hasked : cancel asked with
    | true => simp [Cancellation.after, hasked, verdicts]
    | false =>
      simp only [Cancellation.after, Nat.add_zero, hasked, Bool.false_eq_true, ↓reduceIte, ih]
      cases Cancellation.firstYes? (cancel.after (asked + 1)) nodes.length with
      | none => rfl
      | some k => rfl

theorem resolve_eq {candidates : List ν} {interfaceName : String}
    (h : P.typeNamed? interfaceName = some interface) :
    P.resolve candidates interfaceName cancel =
      match cancel.firstYes? candidates.length with
      | some k => .cancelled (P.verdicts interface [] (candidates.take k))
      | none => .complete (P.verdicts interface [] candidates) := by
  rw [resolve, h]
  simp only [resolveFrom_eq, Cancellation.after_zero]

/-- Resolving is cancelled if the interface is known and the host says yes in time. -/
theorem resolved?_eq_none {candidates : List ν} {interfaceName : String} :
    (P.resolve candidates interfaceName cancel).resolved? = none ↔
      (P.typeNamed? interfaceName).isSome ∧ ∃ k < candidates.length, cancel k = true := by
  cases hknown : P.typeNamed? interfaceName with
  | none => simp [resolve, hknown, Resolution.resolved?]
  | some interface =>
    rw [resolve_eq hknown, ← Cancellation.isSome_firstYes?]
    cases cancel.firstYes? candidates.length with
    | none => simp [Resolution.resolved?]
    | some k => simp [Resolution.resolved?]

theorem resolve_eq_never {candidates : List ν} {interfaceName : String}
    (h : (P.resolve candidates interfaceName cancel).resolved? ≠ none) :
    P.resolve candidates interfaceName cancel = P.resolve candidates interfaceName := by
  cases hknown : P.typeNamed? interfaceName with
  | none => rw [resolve, resolve, hknown]
  | some interface =>
    rw [resolve_eq hknown] at h
    rw [resolve_eq hknown, resolve_eq hknown, Cancellation.firstYes?_never]
    cases hyes : cancel.firstYes? candidates.length with
    | none => rfl
    | some k =>
      rw [hyes] at h
      exact absurd rfl h

/-! ### Counting the questions -/

/-- The number of questions that a run stands for. -/
theorem consultations_resolve (candidates : List ν) (interfaceName : String) :
    (P.resolve candidates interfaceName cancel).consultations =
      if (P.typeNamed? interfaceName).isSome then cancel.calls candidates.length else 0 := by
  cases hknown : P.typeNamed? interfaceName with
  | none => rw [resolve, hknown]; rfl
  | some interface =>
    rw [resolve_eq hknown, Option.isSome_some, if_pos rfl, Cancellation.calls]
    cases hyes : cancel.firstYes? candidates.length with
    | none => exact length_verdicts [] candidates
    | some k =>
      have hlt := Cancellation.lt_of_firstYes? hyes
      simp only [Resolution.consultations, length_verdicts, List.length_take]
      omega

/-- One question, and the run behind it unless the answer is yes. -/
theorem run_resolveAskingFrom_cons (asked : Nat) (seen : List String) (node : ν)
    (nodes : List ν) :
    (P.resolveAskingFrom interface cancel.ask seen (node :: nodes)).run asked =
      if cancel asked then (.cancelled [], asked + 1)
      else
        let v := P.judge interface seen node
        let rest := (P.resolveAskingFrom interface cancel.ask (v.seenAfter seen) nodes).run
          (asked + 1)
        (rest.1.cons v, rest.2) := by
  have hbind : ∀ {α β : Type} (x : StateM Nat α) (next : α → StateM Nat β) (n : Nat),
      (x >>= next).run n = (next (x.run n).1).run (x.run n).2 := fun _ _ _ => rfl
  have hask : cancel.ask.run asked = (cancel asked, asked + 1) := rfl
  rw [resolveAskingFrom, hbind, hask]
  split_ifs <;> rfl

/-- **The run with counted questions** comes to the same as the run without. -/
theorem run_resolveAskingFrom (asked : Nat) (seen : List String) (nodes : List ν) :
    (P.resolveAskingFrom interface cancel.ask seen nodes).run asked =
      (P.resolveFrom interface cancel asked seen nodes,
        asked + (cancel.after asked).calls nodes.length) := by
  induction nodes generalizing asked seen with
  | nil => rfl
  | cons node nodes ih =>
    rw [run_resolveAskingFrom_cons, resolveFrom, List.length_cons, Cancellation.calls_succ,
      Cancellation.after_succ]
    cases hasked : cancel asked with
    | true => simp [Cancellation.after, hasked]
    | false => simp [Cancellation.after, hasked, ih, Nat.add_assoc, Nat.add_comm 1]

theorem run_resolveAsking (candidates : List ν) (interfaceName : String) :
    (P.resolveAsking candidates interfaceName cancel.ask).run 0 =
      (P.resolve candidates interfaceName cancel,
        (P.resolve candidates interfaceName cancel).consultations) := by
  rw [consultations_resolve, resolveAsking, resolve]
  cases P.typeNamed? interfaceName with
  | none => rfl
  | some interface =>
    simp only [run_resolveAskingFrom, Cancellation.after_zero, Nat.zero_add, Option.isSome_some,
      ↓reduceIte]

end Provider

/-! ### A pass -/

theorem PassResult.deliver_eq_cancelled {result? : Option PassResult} {sink : Sink} :
    (deliver result? sink).1 = .error .cancelled ↔ result? = none := by
  cases result? with
  | none => simp [deliver]
  | some result =>
    rw [deliver]
    split <;> simp

theorem runPass_eq_cancelled {P : Provider Candidate} {config : Config} {files : List SourceFile}
    {cancel : Cancellation} {sink : Sink} :
    (runPass P config files cancel sink).1 = .error .cancelled ↔
      (P.resolve (Candidate.collect config.filter files) config.disposalInterface
        cancel).resolved? = none := by
  rw [runPass, PassResult.deliver_eq_cancelled, Option.map_eq_none_iff]

/-- **Cancelling is all or nothing.**  A pass is cancelled exactly if its disposal interface is
known and one of the answers for its candidates is yes; the host is asked once for each candidate
up to the first yes, and not at all if the interface is unknown.  A cancelled pass leaves the sink
as it was, any other pass ends like the pass without a host. -/
theorem cancellation_all_or_nothing (P : Provider Candidate) (config : Config)
    (files : List SourceFile) (cancel : Cancellation) (sink : Sink) :
    ((runPass P config files cancel sink).1 = .error .cancelled ↔
      (P.typeNamed? config.disposalInterface).isSome ∧
        ∃ k < (Candidate.collect config.filter files).length, cancel k = true) ∧
    (∃ resolution calls,
      P.resolve (Candidate.collect config.filter files) config.disposalInterface cancel =
        resolution ∧
      (P.resolveAsking (Candidate.collect config.filter files) config.disposalInterface
        cancel.ask).run 0 = (resolution, calls) ∧
      calls = if (P.typeNamed? config.disposalInterface).isSome then
        cancel.calls (Candidate.collect config.filter files).length else 0) ∧
    ((runPass P config files cancel sink).1 = .error .cancelled →
      (runPass P config files cancel sink).2 = sink) ∧
    ((runPass P config files cancel sink).1 ≠ .error .cancelled →
      runPass P config files cancel sink = runPass P config files .never sink) := by
  refine ⟨?_, ⟨_, _, rfl, Provider.run_resolveAsking _ _, Provider.consultations_resolve _ _⟩,
    fun h => ?_, fun h => ?_⟩
  · rw [runPass_eq_cancelled, Provider.resolved?_eq_none]
  · rw [runPass_eq_cancelled] at h
    simp only [runPass, h, Option.map_none, PassResult.deliver]
  · rw [ne_eq, runPass_eq_cancelled] at h
    simp only [runPass, Provider.resolve_eq_never h]

end Disposal
