import Disposal.Proofs.Cancelling
import Disposal.Proofs.Distinguishing
import Disposal.Proofs.Sharing
import Disposal.Text.Blank

/-!
# Advice on generated code

The checks decide for themselves what the resolver and the generated text decide as well: whether a
method is a cleanup hook, and whether there is anything to clean up.  Here the findings are said in
terms of those two.

* `WorkItem.render_eq_stub_iff`: the text is the one with an empty `Dispose()` if there is nothing
  to clean up;
* `Artifact.Calls`: a text calls a method, and `Provider.calls_of_hasCleanupHook`: a hook that the
  resolver accepts is called;
* `advice` are the findings that a type deserves, and `flatMap_run_enabledDiagnostics`: the checks
  find exactly these;
* `findings_agree` puts this together for a pass.
-/

namespace Disposal

namespace Artifact

/-! ### Lines of a text -/

theorem splitLines_text_cons (l : Line) (ls : List Line) : Text.splitLines (text (l :: ls)).toList =
    Text.splitLines l.toString.toList ++ Text.splitLines (text ls).toList := by
  rw [text_cons, String.toList_append, String.toList_append, List.append_assoc]
  exact Text.splitAt_append_cons (c := '\n') (by decide) _ _

theorem splitLines_of_isOneLine {s : String} (h : IsOneLine s) :
    Text.splitLines s.toList = [s.toList] :=
  Text.splitAt_eq_singleton fun _ hc => decide_eq_false fun heq => h (heq ▸ hc)

theorem mem_splitLines_text {l : Line} {ls : List Line} (hmem : l ∈ ls)
    (hl : IsOneLine l.toString) : l.toString.toList ∈ Text.splitLines (text ls).toList := by
  induction ls with
  | nil => cases hmem
  | cons m ls ih =>
    rw [splitLines_text_cons, List.mem_append]
    rcases List.mem_cons.1 hmem with rfl | hmem
    · rw [splitLines_of_isOneLine hl]
      exact .inl List.mem_cons_self
    · exact .inr (ih hmem)

/-- If all lines stand on one line, a text has no other lines, but for the empty one at its end. -/
theorem splitLines_text {ls : List Line} (h : ∀ l ∈ ls, IsOneLine l.toString) :
    Text.splitLines (text ls).toList = (ls.map fun l => l.toString.toList) ++ [[]] := by
  induction ls with
  | nil => rfl
  | cons l ls ih =>
    rw [List.forall_mem_cons] at h
    rw [splitLines_text_cons, splitLines_of_isOneLine h.1, ih h.2]
    rfl

/-- A text calls a method: one of its lines is the call, but for blanks around it. -/
def Calls (text method : String) : Prop :=
  ∃ line ∈ Text.splitLines text.toList, Text.trimBlank line = (method ++ "();").toList

end Artifact

namespace WorkItem

open Artifact

/-! ### The text without work -/

/-- The source text with an empty `Dispose()` and nothing else. -/
def stub (item : WorkItem) : String := String.join
  ["using System;\n",
    "\n",
    "namespace " ++ item.namespaceName ++ "\n",
    "\x7b\n",
    "    " ++ item.classHeader ++ "\n",
    "    \x7b\n",
    "        public void Dispose()\n",
    "        \x7b\n",
    "        \x7d\n",
    "    \x7d\n",
    "\x7d\n"]

/-- The lines of a source up to the members of its class. -/
def opening (item : WorkItem) : List Line :=
  [.code 0 "using System;", .blank, .code 0 ("namespace " ++ item.namespaceName), .code 0 "\x7b",
    .code 1 item.classHeader, .code 1 "\x7b"]

/-- The lines of a source behind the members of its class. -/
def closing : List Line := [.code 1 "\x7d", .code 0 "\x7d"]

theorem lines_eq (item : WorkItem) :
    item.lines = item.opening ++ paragraphs item.members ++ closing := by
  simp [lines, opening, closing, block]

theorem stub_eq_text (item : WorkItem) :
    item.stub = text (item.opening ++ block 2 "public void Dispose()" [] ++ closing) := by
  simp [stub, opening, closing, block, text, Line.toString]

theorem private_isPrefix {item : WorkItem} (h : item.hasWork = true) :
    "        private".toList <+: (text (paragraphs item.members)).toList := by
  have hfield : "        private".toList <+:
      (Line.code 2 ("private bool " ++ disposedFlag ++ " = false;")).toString.toList := by decide
  rw [paragraphs_members h, bodyStart, List.append_assoc, List.append_assoc, List.append_assoc,
    List.append_assoc, List.append_assoc, List.cons_append, text_cons]
  simp only [String.toList_append, List.append_assoc]
  exact hfield.trans (List.prefix_append _ _)

/-- **The text is the stub** exactly if there is nothing to clean up. -/
theorem render_eq_stub_iff {item : WorkItem} :
    item.render = item.stub ↔ item.lacksWork = true := by
  rw [lacksWork, Bool.not_eq_true', render, lines_eq, stub_eq_text]
  cases hwork : item.hasWork with
  | false => simp [paragraphs_members_of_lacksWork hwork]
  | true =>
    refine iff_of_false (fun h => ?_) (by simp)
    have hlists := congrArg String.toList h
    simp only [text_append, String.toList_append, List.append_cancel_right_eq,
      List.append_cancel_left_eq] at hlists
    have hnot : ¬ "        private".toList <+:
        (text (block 2 "public void Dispose()" [])).toList := by decide
    exact hnot (hlists ▸ private_isPrefix hwork)

/-! ### Calls of hooks -/

theorem calls_of_mem_lines {item : WorkItem} {depth : Nat} {code method : String}
    (hmem : Line.code depth code ∈ item.lines) (hone : IsOneLine code)
    (hcall : Text.trimBlank (Line.code depth code).toString.toList = (method ++ "();").toList) :
    Calls item.render method :=
  ⟨_, mem_splitLines_text hmem (isOneLine_code depth hone), hcall⟩

/-- A source calls what one of its lines calls, if the names in it stand on one line. -/
theorem calls_render_iff {item : WorkItem} (h : item.HasLineNames) {method : String} :
    Calls item.render method ↔
      ∃ l ∈ item.lines, Text.trimBlank l.toString.toList = (method ++ "();").toList := by
  -- the line behind the last line feed is empty
  have hempty : Text.trimBlank [] ≠ (method ++ "();").toList := by
    intro hnil
    have hend : (method ++ "();").toList = [] := hnil.symm
    simp at hend
  rw [Calls, render, splitLines_text h.isOneLine]
  constructor
  · rintro ⟨line, hline, hcall⟩
    rcases List.mem_append.1 hline with hline | hline
    · obtain ⟨l, hl, rfl⟩ := List.mem_map.1 hline
      exact ⟨l, hl, hcall⟩
    · obtain rfl := List.mem_singleton.1 hline
      exact absurd hcall hempty
  · rintro ⟨l, hl, hcall⟩
    exact ⟨_, List.mem_append_left _ (List.mem_map_of_mem hl), hcall⟩

theorem calls_managedHook (item : WorkItem) (h : item.managedHook = true) :
    Calls item.render Disposal.managedHook := by
  have hwork : item.hasWork = true := by simp [hasWork, h]
  have hline : Line.code 4 "DisposeManaged();" ∈ item.lines := by
    rw [lines_eq, paragraphs_members hwork, managedCleanup, if_pos h]
    simp
  exact calls_of_mem_lines hline (by decide) (by decide)

theorem calls_unmanagedHook (item : WorkItem) (h : item.unmanagedHook = true) :
    Calls item.render Disposal.unmanagedHook := by
  have hwork : item.hasWork = true := by simp [hasWork, h]
  have hline : Line.code 3 "DisposeUnmanaged();" ∈ item.lines := by
    rw [lines_eq, paragraphs_members hwork, bodyEnd, if_pos h]
    simp
  exact calls_of_mem_lines hline (by decide) (by decide)

end WorkItem

open Artifact

/-- **A hook that the resolver accepts is called.** -/
theorem Provider.calls_of_hasCleanupHook {ν : Type} {P : Provider ν} {t interface : TypeSymbol}
    {hook : String} (hhook : hook ∈ [managedHook, unmanagedHook])
    (h : hasCleanupHook (P.members t) hook = true) :
    Calls (P.workItem t interface).render hook := by
  rcases List.mem_cons.1 hhook with rfl | hhook
  · exact (P.workItem t interface).calls_managedHook h
  · obtain rfl := List.mem_singleton.1 hhook
    exact (P.workItem t interface).calls_unmanagedHook h

/-! ### The findings on one type -/

/-- The methods that are named like a cleanup hook and that the resolver does not accept, in the
order of their declarations. -/
def rejectedHooks (members : List MemberSymbol) : List MemberSymbol :=
  members.filter fun m => m.kind = .method ∧ m.name ∈ [managedHook, unmanagedHook] ∧
    m.isParameterlessVoid m.name = false

/-- What is said about a method of a class that is named like a cleanup hook. -/
def rejectionMessage (className hook : String) : String :=
  "'" ++ className ++ "." ++ hook ++
    "' must be a non-generic parameterless void method; it will not be called."

/-- The findings that a type with its work item and members deserves. -/
def advice (item : WorkItem) (t : TypeSymbol) (members : List MemberSymbol) : List Finding :=
  (if t.isPartial then [] else
    [{ rule := "DP0002"
       message := "Class '" ++ item.className ++
         "' must be declared partial for the generated Dispose() to compile."
       location := t.location
       symbol := some t.qualifiedName
       severity := "error" }]) ++
  ((rejectedHooks members).map fun m =>
    { rule := "DP0003"
      message := rejectionMessage item.className m.name
      location := m.location.or t.location
      symbol := some t.qualifiedName
      severity := "warning" }) ++
  (if item.render = item.stub then
    [{ rule := "DP0001"
       message := "Class '" ++ item.className ++
         "' does not implement a DisposeManaged or DisposeUnmanaged method."
       location := t.location
       symbol := some t.qualifiedName
       severity := "warning" }]
  else [])

theorem Diagnostic.filter_isMisshapenHook (members : List MemberSymbol) :
    members.filter isMisshapenHook = rejectedHooks members := by
  refine List.filter_congr fun m _ => ?_
  rw [Bool.eq_iff_iff]
  simp only [isMisshapenHook, MemberSymbol.isParameterlessVoid]
  by_cases hkind : m.kind = .method <;> simp [hkind, or_assoc]

/-- **The checks find what a type deserves**, when all of them run. -/
theorem flatMap_run_enabledDiagnostics (strict : Bool) (item : WorkItem) (t : TypeSymbol)
    (members : List MemberSymbol) :
    ((Config.standard strict true).enabledDiagnostics.flatMap fun d => d.run item t members) =
      advice item t members := by
  have henabled : (Config.standard strict true).enabledDiagnostics =
      [.notPartial, .hookSignature, .nothingToDispose] := by cases strict <;> rfl
  have hempty : item.lacksWork = true ↔ item.render = item.stub :=
    WorkItem.render_eq_stub_iff.symm
  rw [henabled, List.flatMap_cons, List.flatMap_cons, List.flatMap_singleton, ← List.append_assoc]
  simp only [Diagnostic.run, Diagnostic.filter_isMisshapenHook, hempty]
  -- the checks look for a place of their own and take that of the type if there is none
  have hplace : ∀ m : MemberSymbol,
      (m.location.orElse fun _ => t.location) = m.location.or t.location :=
    fun m => Option.orElse_eq_or
  simp only [Diagnostic.finding, hplace]
  rfl

/-- A method that is named like a hook is accepted as one or it is among the rejected ones. -/
theorem mem_rejectedHooks_iff {members : List MemberSymbol} {m : MemberSymbol} {hook : String}
    (hhook : hook ∈ [managedHook, unmanagedHook]) (hm : m ∈ members) (hkind : m.kind = .method)
    (hname : m.name = hook) :
    m ∈ rejectedHooks members ↔ ¬ m.isParameterlessVoid hook = true := by
  subst hname
  have hnamed : m.name = managedHook ∨ m.name = unmanagedHook := by simpa using hhook
  simp [rejectedHooks, hm, hkind, hnamed]

theorem mem_advice_of_rejected (item : WorkItem) (t : TypeSymbol) {members : List MemberSymbol}
    {m : MemberSymbol} (h : m ∈ rejectedHooks members) :
    { rule := "DP0003"
      message := rejectionMessage item.className m.name
      location := m.location.or t.location
      symbol := some t.qualifiedName
      severity := "warning" } ∈ advice item t members :=
  List.mem_append_left _ (List.mem_append_right _ (List.mem_map_of_mem h))

/-! ### The findings of a pass -/

theorem Provider.eq_workItem_of_mem_work {ν : Type} {P : Provider ν} {candidates : List ν}
    {interfaceName : String} {w : WorkItem × TypeSymbol × ν}
    (h : w ∈ P.work candidates interfaceName) : ∃ interface, w.1 = P.workItem w.2.1 interface := by
  rw [work] at h
  cases hi : P.typeNamed? interfaceName with
  | none => rw [hi] at h; cases h
  | some interface =>
    rw [hi, Option.elim_some] at h
    obtain ⟨c, -, hwork⟩ := List.mem_filterMap.1 ((firstBy_sublist _ _).subset h)
    obtain ⟨t, -, -, -, -, rfl⟩ := workOf?_eq_some.1 hwork
    exact ⟨interface, rfl⟩

theorem runPass_eq_ok {P : Provider Candidate} {config : Config} {files : List SourceFile}
    {cancel : Cancellation} {sink : Sink} {result : PassResult}
    (h : (runPass P config files cancel sink).1 = .ok result) :
    (P.resolve (Candidate.collect config.filter files) config.disposalInterface cancel).resolved? =
        some (P.work (Candidate.collect config.filter files) config.disposalInterface) ∧
      result = (PassInput.mk P config files).result := by
  have hresolved : (P.resolve (Candidate.collect config.filter files) config.disposalInterface
      cancel).resolved? ≠ none := by
    intro hnone
    have hcancelled : (runPass P config files cancel sink).1 = .error .cancelled :=
      runPass_eq_cancelled.2 hnone
    rw [h] at hcancelled
    cases hcancelled
  have hwork : (P.resolve (Candidate.collect config.filter files) config.disposalInterface
      cancel).resolved? =
        some (P.work (Candidate.collect config.filter files) config.disposalInterface) := by
    rw [Provider.resolve_eq_never hresolved, Provider.resolved?_resolve]
    rfl
  refine ⟨hwork, ?_⟩
  rw [runPass, hwork, Option.map_some, PassResult.deliver] at h
  split at h
  · exact (Except.ok.inj h).symm
  · cases h

theorem not_accepted_of_not_calls {ν : Type} {P : Provider ν} {candidates : List ν}
    {interfaceName : String} {w : WorkItem × TypeSymbol × ν}
    (hw : w ∈ P.work candidates interfaceName) {hook : String}
    (hhook : hook ∈ [managedHook, unmanagedHook]) {m : MemberSymbol}
    (hm : m ∈ P.members w.2.1) (hcalls : ¬ Calls w.1.render hook) :
    ¬ m.isParameterlessVoid hook = true := by
  intro haccepted
  obtain ⟨interface, hitem⟩ := Provider.eq_workItem_of_mem_work hw
  have hhas : hasCleanupHook (P.members w.2.1) hook = true :=
    List.any_eq_true.2 ⟨m, hm, haccepted⟩
  exact hcalls (hitem ▸ Provider.calls_of_hasCleanupHook hhook hhas)

theorem findings_result (P : Provider Candidate) (strict : Bool) (files : List SourceFile) :
    (PassInput.mk P (.standard strict true) files).result.findings =
      (P.work (Candidate.collect (Config.standard strict true).filter files)
        Framework.disposableInterface).flatMap fun w => advice w.1 w.2.1 (P.members w.2.1) := by
  have hruns : ∀ work : List (WorkItem × TypeSymbol × Candidate),
      runDiagnostics P (.standard strict true) (work.map fun w => (w.1, w.2.1)) =
        work.flatMap fun w => advice w.1 w.2.1 (P.members w.2.1) := by
    intro work
    rw [runDiagnostics, List.flatMap_map]
    exact List.flatMap_congr fun w _ => flatMap_run_enabledDiagnostics ..
  exact hruns _

/-- **The findings agree with the resolver and the generated text.**  Of a pass that reports types
with nothing to clean up, with the answers of any provider, the findings are for each work item in
order those that its type deserves.  A method that is named like a hook is accepted as one or it is
reported; and if there is such a method and the text of the work item does not call it, a finding
names it. -/
theorem findings_agree (P : Provider Candidate) (strict : Bool) (files : List SourceFile)
    (cancel : Cancellation) (sink : Sink) (result : PassResult)
    (h : (runPass P (.standard strict true) files cancel sink).1 = .ok result) :
    ∃ work, (P.resolve (Candidate.collect (Config.standard strict true).filter files)
        Framework.disposableInterface cancel).resolved? = some work ∧
      result.workItems = work.map Prod.fst ∧
      result.artifacts = work.map (fun w => (w.1.artifactKey, w.1.render)) ∧
      result.findings = work.flatMap (fun w => advice w.1 w.2.1 (P.members w.2.1)) ∧
      ∀ w ∈ work, ∀ hook ∈ [managedHook, unmanagedHook],
        ∀ m ∈ P.members w.2.1, m.kind = .method → m.name = hook →
          (m.isParameterlessVoid hook = true ↔ m ∉ rejectedHooks (P.members w.2.1)) ∧
          (¬ Calls w.1.render hook → ∃ f ∈ result.findings, f.rule = "DP0003" ∧
            f.message = rejectionMessage w.1.className hook ∧
            f.symbol = some w.2.1.qualifiedName) := by
  obtain ⟨hwork, rfl⟩ := runPass_eq_ok h
  refine ⟨_, hwork, rfl, ?_, findings_result P strict files, ?_⟩
  · rw [PassInput.artifacts_result]
    exact List.map_map
  · intro w hw hook hhook m hm hkind hname
    have hrejected := mem_rejectedHooks_iff hhook hm hkind hname
    refine ⟨by rw [hrejected, not_not], fun hcalls => ?_⟩
    have hadvice := mem_advice_of_rejected w.1 w.2.1
      (hrejected.2 (not_accepted_of_not_calls hw hhook hm hcalls))
    rw [findings_result]
    refine ⟨_, List.mem_flatMap.2 ⟨w, hw, hadvice⟩, rfl, ?_, rfl⟩
    rw [hname]

/-- Answers about a class with two methods `DisposeManaged`, of which one has a parameter, and with
a `DisposeUnmanaged` that returns something. -/
def overloadedHooks : Provider Candidate where
  declaration? _ := some { name := "C", namespaceName := "N", baseNames := ["System.IDisposable"] }
  typeNamed? := Framework.table.get?
  members _ :=
    [{ name := managedHook, kind := .method, parameterCount := 1, returnsVoid := true },
      { name := managedHook, kind := .method, returnsVoid := true },
      { name := unmanagedHook, kind := .method }]
  interfaces := Framework.table.interfaces

/-- A pass with these answers over a file with a class that has a base list. -/
def overloadedPass : PassInput where
  provider := overloadedHooks
  config := .standard false true
  files := [.read "namespace N\x7bclass C:B\x7b\x7d\x7d"]

/-- The work item of the class. -/
def managedItem : WorkItem := { namespaceName := "N", className := "C", managedHook := true }

theorem findings_agree_overloadedHooks :
    ∃ result,
      (runPass overloadedHooks (.standard false true) overloadedPass.files).1 = .ok result ∧
        result.workItems = [managedItem] ∧
        result.findings.map Finding.rule = ["DP0002", "DP0003", "DP0003"] ∧
        ∃ f ∈ result.findings, f.rule = "DP0003" ∧
          f.message = rejectionMessage "C" "DisposeUnmanaged" := by
  have hrun : (runPass overloadedHooks (.standard false true) overloadedPass.files).1 =
      .ok overloadedPass.result := congrArg Prod.fst overloadedPass.run_nil
  have hresult : overloadedPass.result.workItems = [managedItem] ∧
      overloadedPass.result.findings.map Finding.rule = ["DP0002", "DP0003", "DP0003"] := by
    decide +kernel
  have hnot : ¬ Calls managedItem.render unmanagedHook := by
    rw [WorkItem.calls_render_iff ⟨by decide, by decide, by decide⟩]
    decide +kernel
  obtain ⟨work, -, hitems, -, -, hhooks⟩ :=
    findings_agree overloadedHooks false overloadedPass.files .never [] _ hrun
  refine ⟨_, hrun, hresult.1, hresult.2, ?_⟩
  obtain ⟨w, hw, hitem⟩ : ∃ w ∈ work, w.1 = managedItem := by
    rw [← List.mem_map, ← hitems, hresult.1]
    exact List.mem_singleton_self _
  obtain ⟨f, hf, hrule, hmessage, -⟩ := (hhooks w hw unmanagedHook (by decide)
    { name := unmanagedHook, kind := .method } (by simp [overloadedHooks]) rfl rfl).2
      (hitem ▸ hnot)
  rw [hitem] at hmessage
  exact ⟨f, hf, hrule, hmessage⟩

end Disposal
