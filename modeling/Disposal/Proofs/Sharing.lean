import Disposal.Proofs.Generation

/-!
# Passes that share a sink

A sink takes every key once and only ever grows at its end.  Passes one after the other into one
sink therefore never touch what is stored; a pass whose keys are all new adds its sources, and a
pass with a key that is taken adds those before it and fails with that key.

* `PassInput.result` is what a pass computes, `PassInput.run` the pass into a sink, and
  `PassInput.delivered_run` says what comes of it;
* `runPasses` are passes one after the other, and `runPasses_append` cuts them in two.

The main statement puts it together for any number of passes.
-/

namespace Disposal

/-! ### One pass -/

/-- What a pass is given. -/
structure PassInput where
  provider : Provider Candidate
  config : Config
  files : List SourceFile

/-- What comes of a result for a sink that holds some sources already. -/
structure Delivered (result : PassResult) (held : Sink)
    (outcome : Except PassError PassResult × Sink) : Prop where
  /-- The pass fails exactly if one of its keys is taken. -/
  refused_iff : (∃ e, outcome.1 = .error (.duplicate e)) ↔
    ∃ a ∈ result.artifacts, held.Holds a.1
  /-- The error names the first key that is taken, and the sources before it are stored. -/
  refused : ∀ e, outcome.1 = .error (.duplicate e) → ∃ stored text rest,
    result.artifacts = stored ++ (e.key, text) :: rest ∧ (∀ a ∈ stored, ¬ held.Holds a.1) ∧
      held.Holds e.key ∧ outcome.2 = held ++ stored
  /-- Otherwise the pass has its result, and all its sources are stored. -/
  stored : (¬ ∃ a ∈ result.artifacts, held.Holds a.1) →
    outcome = (.ok result, held ++ result.artifacts)

theorem PassResult.delivered {result : PassResult} (h : (result.artifacts.map Prod.fst).Nodup)
    (held : Sink) : Delivered result held (PassResult.deliver (some result) held) := by
  rcases held.addAll_cases h with ⟨hnew, hadd⟩ | ⟨stored, key, text, rest, heq, hnew, hkey, hadd⟩
  · have hnone : ¬ ∃ a ∈ result.artifacts, held.Holds a.1 := by
      rintro ⟨a, ha, hheld⟩
      exact hnew a ha hheld
    simp only [PassResult.deliver, hadd]
    refine ⟨⟨?_, fun hsome => absurd hsome hnone⟩, ?_, fun _ => rfl⟩
    · rintro ⟨_, he⟩
      cases he
    · intro _ he
      cases he
  · have hsome : ∃ a ∈ result.artifacts, held.Holds a.1 := ⟨(key, text), by simp [heq], hkey⟩
    simp only [PassResult.deliver, hadd]
    refine ⟨⟨fun _ => hsome, fun _ => ⟨⟨key⟩, rfl⟩⟩, fun e he => ?_,
      fun hnone => absurd hsome hnone⟩
    cases he
    exact ⟨stored, text, rest, heq, hnew, hkey, rfl⟩

theorem Delivered.keeps {result : PassResult} {held : Sink}
    {outcome : Except PassError PassResult × Sink} (h : Delivered result held outcome) :
    held <+: outcome.2 := by
  by_cases htaken : ∃ a ∈ result.artifacts, held.Holds a.1
  · obtain ⟨e, he⟩ := h.refused_iff.2 htaken
    obtain ⟨stored, text, rest, -, -, -, hsink⟩ := h.refused e he
    exact ⟨stored, hsink.symm⟩
  · rw [h.stored htaken]
    exact List.prefix_append _ _

/-- What is stored has keys of its own, as long as those of the pass are distinct. -/
theorem Delivered.nodup_keys {result : PassResult} {held : Sink}
    {outcome : Except PassError PassResult × Sink} (h : Delivered result held outcome)
    (hkeys : (result.artifacts.map Prod.fst).Nodup) (hheld : (held.map Prod.fst).Nodup) :
    (outcome.2.map Prod.fst).Nodup := by
  have happend : ∀ new : List (String × String), (new.map Prod.fst).Nodup →
      (∀ a ∈ new, ¬ held.Holds a.1) → ((held ++ new).map Prod.fst).Nodup := by
    intro new hnew hother
    rw [List.map_append]
    refine hheld.append hnew fun key hold hnew => ?_
    obtain ⟨a, ha, rfl⟩ := List.mem_map.1 hnew
    exact hother a ha hold
  by_cases htaken : ∃ a ∈ result.artifacts, held.Holds a.1
  · obtain ⟨e, he⟩ := h.refused_iff.2 htaken
    obtain ⟨stored, text, rest, heq, hnew, -, hsink⟩ := h.refused e he
    rw [hsink]
    rw [heq, List.map_append] at hkeys
    exact happend stored hkeys.of_append_left hnew
  · rw [h.stored htaken]
    exact happend _ hkeys fun a ha hold => htaken ⟨a, ha, hold⟩

namespace PassInput

/-- What a pass computes from its input. -/
def result (i : PassInput) : PassResult :=
  let candidates := Candidate.collect i.config.filter i.files
  .ofWork i.provider i.config i.files candidates
    (i.provider.work candidates i.config.disposalInterface)

/-- A pass into a sink, without a host that cancels. -/
def run (i : PassInput) (sink : Sink) : Except PassError PassResult × Sink :=
  runPass i.provider i.config i.files .never sink

variable {i : PassInput}

theorem run_eq (i : PassInput) (sink : Sink) :
    i.run sink = PassResult.deliver (some i.result) sink := by
  rw [run, runPass, Provider.resolved?_resolve]
  rfl

/-- **One source for each work item**, in their order. -/
theorem artifacts_result (i : PassInput) : i.result.artifacts =
    i.result.workItems.map fun item => (item.artifactKey i.config.artifactSuffix, item.render) :=
  renderAll_eq_map (Provider.nodup_artifactKeys _)

theorem nodup_keys_result (i : PassInput) : (i.result.artifacts.map Prod.fst).Nodup :=
  nodup_keys_renderAll _ _

/-- **What comes of a pass** into a sink that other passes may have used. -/
theorem delivered_run (i : PassInput) (sink : Sink) : Delivered i.result sink (i.run sink) := by
  rw [run_eq]
  exact PassResult.delivered i.nodup_keys_result sink

theorem run_nil (i : PassInput) : i.run [] = (.ok i.result, i.result.artifacts) := by
  refine (i.delivered_run []).stored ?_
  rintro ⟨_, _, hheld⟩
  exact List.not_mem_nil hheld

end PassInput

/-! ### Passes one after the other -/

/-- Passes one after the other into one sink: what comes of each of them, and the sink at the
end. -/
def runPasses : List PassInput → Sink → List (Except PassError PassResult) × Sink
  | [], sink => ([], sink)
  | i :: passes, sink =>
    let (outcome, sink) := i.run sink
    let (outcomes, sink) := runPasses passes sink
    (outcome :: outcomes, sink)

theorem runPasses_cons (i : PassInput) (passes : List PassInput) (sink : Sink) :
    runPasses (i :: passes) sink =
      ((i.run sink).1 :: (runPasses passes (i.run sink).2).1,
        (runPasses passes (i.run sink).2).2) := rfl

theorem length_runPasses (passes : List PassInput) (sink : Sink) :
    (runPasses passes sink).1.length = passes.length := by
  induction passes generalizing sink with
  | nil => rfl
  | cons i passes ih => rw [runPasses_cons, List.length_cons, List.length_cons, ih]

theorem runPasses_append (before after : List PassInput) (sink : Sink) :
    runPasses (before ++ after) sink =
      ((runPasses before sink).1 ++ (runPasses after (runPasses before sink).2).1,
        (runPasses after (runPasses before sink).2).2) := by
  induction before generalizing sink with
  | nil => rfl
  | cons i before ih => rw [List.cons_append, runPasses_cons, ih, runPasses_cons, List.cons_append]

/-- **Passes leave alone what is stored.** -/
theorem runPasses_keeps (passes : List PassInput) (sink : Sink) :
    sink <+: (runPasses passes sink).2 := by
  induction passes generalizing sink with
  | nil => exact List.prefix_refl _
  | cons i passes ih =>
    rw [runPasses_cons]
    exact (i.delivered_run sink).keeps.trans (ih _)

theorem nodup_keys_runPasses (passes : List PassInput) {sink : Sink}
    (h : (sink.map Prod.fst).Nodup) : ((runPasses passes sink).2.map Prod.fst).Nodup := by
  induction passes generalizing sink with
  | nil => exact h
  | cons i passes ih =>
    rw [runPasses_cons]
    exact ih ((i.delivered_run sink).nodup_keys i.nodup_keys_result h)

/-- **No source is lost or overwritten.**  A pass has one source for each work item, in their
order and under distinct keys, and an empty sink takes them all.  Of any passes into one sink,
each one finds the sources of those before it and leaves them as they are, in their order, and so
do those after it; it fails exactly if one of its keys is taken, with the first such key and with
the sources before it stored. -/
theorem passes_share_sink :
    (∀ i : PassInput, i.run [] = (.ok i.result, i.result.artifacts) ∧
      i.result.artifacts = i.result.workItems.map (fun item =>
        (item.artifactKey i.config.artifactSuffix, item.render)) ∧
      (i.result.artifacts.map Prod.fst).Nodup) ∧
    ∀ (before : List PassInput) (i : PassInput) (after : List PassInput) (sink : Sink),
      ∃ held, (runPasses before sink).2 = held ∧
        (runPasses (before ++ i :: after) sink).1[before.length]? = some (i.run held).1 ∧
        Delivered i.result held (i.run held) ∧
        sink <+: held ∧ held <+: (i.run held).2 ∧
        (i.run held).2 <+: (runPasses (before ++ i :: after) sink).2 ∧
        ((sink.map Prod.fst).Nodup →
          ((runPasses (before ++ i :: after) sink).2.map Prod.fst).Nodup) := by
  refine ⟨fun i => ⟨i.run_nil, i.artifacts_result, i.nodup_keys_result⟩,
    fun before i after sink => ?_⟩
  refine ⟨_, rfl, ?_, i.delivered_run _, runPasses_keeps _ _,
    (i.delivered_run _).keeps, ?_, nodup_keys_runPasses _⟩
  · rw [runPasses_append, runPasses_cons,
      List.getElem?_append_right (Nat.le_of_eq (length_runPasses _ _)), length_runPasses,
      Nat.sub_self, List.getElem?_cons_zero]
  · rw [runPasses_append, runPasses_cons]
    exact runPasses_keeps _ _

end Disposal
