import Disposal.Pass
import Disposal.Proofs.Resolving

/-!
# The sources of a pass

Sources are stored under keys made from the names of their types.  A pass has at most one work
item for a name, so every work item has its own key, its source is kept, and a sink that is empty
at first refuses none of them.

* `renderAll_eq_map`: with distinct keys the stored sources are those of the items, in order;
* `Sink.addAll_cases`: a sink takes sources with distinct keys up to the first key that it holds;
* `Pass.result_eq_ok`: what a pass computes without cancellation is its result.
-/

namespace Disposal

/-! ### Storing sources -/

theorem putArtifact_of_not_mem {key : String} {artifacts : List (String × String)}
    (h : key ∉ artifacts.map Prod.fst) (text : String) :
    putArtifact key text artifacts = artifacts ++ [(key, text)] := by
  induction artifacts with
  | nil => rfl
  | cons entry artifacts ih =>
    obtain ⟨k, t⟩ := entry
    simp only [List.map_cons, List.mem_cons, not_or] at h
    rw [putArtifact, if_neg (Ne.symm h.1), ih h.2, List.cons_append]

theorem keys_putArtifact (key text : String) (artifacts : List (String × String)) :
    (putArtifact key text artifacts).map Prod.fst =
      if key ∈ artifacts.map Prod.fst then artifacts.map Prod.fst
      else artifacts.map Prod.fst ++ [key] := by
  induction artifacts with
  | nil => rfl
  | cons entry artifacts ih =>
    obtain ⟨k, t⟩ := entry
    rw [putArtifact]
    by_cases hk : k = key
    · simp [hk]
    · have hmem : key ∈ k :: artifacts.map Prod.fst ↔ key ∈ artifacts.map Prod.fst := by
        rw [List.mem_cons, or_iff_right (Ne.symm hk)]
      rw [if_neg hk, List.map_cons, List.map_cons, ih]
      simp only [hmem]
      split_ifs <;> rfl

theorem nodup_keys_putArtifact {artifacts : List (String × String)}
    (h : (artifacts.map Prod.fst).Nodup) (key text : String) :
    ((putArtifact key text artifacts).map Prod.fst).Nodup := by
  rw [keys_putArtifact]
  split_ifs with hkey
  · exact h
  · exact h.append (List.nodup_singleton _) (by simpa using hkey)

theorem nodup_keys_renderAll (suffix : String) (items : List WorkItem) :
    ((renderAll suffix items).map Prod.fst).Nodup := by
  have key : ∀ stored : List (String × String), (stored.map Prod.fst).Nodup →
      ((items.foldl (fun stored item =>
        putArtifact (item.artifactKey suffix) item.render stored) stored).map Prod.fst).Nodup := by
    induction items with
    | nil => exact fun _ h => h
    | cons item items ih => exact fun _ h => ih _ (nodup_keys_putArtifact h _ _)
  exact key [] List.nodup_nil

theorem foldl_putArtifact {suffix : String} {items : List WorkItem}
    {artifacts : List (String × String)}
    (h : (artifacts.map Prod.fst ++ items.map (·.artifactKey suffix)).Nodup) :
    items.foldl (fun stored item => putArtifact (item.artifactKey suffix) item.render stored)
      artifacts = artifacts ++ items.map fun item => (item.artifactKey suffix, item.render) := by
  induction items generalizing artifacts with
  | nil => simp
  | cons item items ih =>
    have hnew : item.artifactKey suffix ∉ artifacts.map Prod.fst := by
      intro hmem
      exact (List.nodup_append.1 h).2.2 _ hmem _ (by simp) rfl
    rw [List.foldl_cons, putArtifact_of_not_mem hnew, ih (by simpa using h)]
    simp

/-- **Sources with distinct keys** are all stored, in the order of their items. -/
theorem renderAll_eq_map {suffix : String} {items : List WorkItem}
    (h : (items.map (·.artifactKey suffix)).Nodup) :
    renderAll suffix items = items.map fun item => (item.artifactKey suffix, item.render) := by
  rw [renderAll, foldl_putArtifact (by simpa using h), List.nil_append]

theorem WorkItem.artifactKey_eq {item : WorkItem} (h : item.namespaceName ≠ "") (suffix : String) :
    item.artifactKey suffix = item.qualifiedName ++ ".Dispose" ++ suffix := by
  rw [artifactKey, qualifiedName, if_neg h]

theorem artifactKey_eq_iff {suffix : String} {a b : WorkItem} (ha : a.namespaceName ≠ "")
    (hb : b.namespaceName ≠ "") :
    a.artifactKey suffix = b.artifactKey suffix ↔ a.qualifiedName = b.qualifiedName := by
  rw [WorkItem.artifactKey, WorkItem.artifactKey, WorkItem.qualifiedName, WorkItem.qualifiedName,
    if_neg ha, if_neg hb, String.append_left_inj, String.append_left_inj]

/-! ### Sinks -/

namespace Sink

/-- A sink has a source under a key. -/
def Holds (sink : Sink) (key : String) : Prop := key ∈ sink.map Prod.fst

instance (sink : Sink) (key : String) : Decidable (sink.Holds key) :=
  inferInstanceAs (Decidable (key ∈ sink.map Prod.fst))

variable {sink : Sink} {key : String} {artifacts : List (String × String)}

theorem add_of_holds (h : sink.Holds key) (text : String) : sink.add key text = .error ⟨key⟩ := by
  rw [add, if_pos (Assoc.isSome_lookup.2 h)]

theorem add_of_not_holds (h : ¬ sink.Holds key) (text : String) :
    sink.add key text = .ok (sink ++ [(key, text)]) := by
  rw [add, if_neg fun hsome => h (Assoc.isSome_lookup.1 hsome)]

/-- **What a sink does with sources under distinct keys**: it takes them all, or those before the
first key that it holds. -/
theorem addAll_cases (sink : Sink) (h : (artifacts.map Prod.fst).Nodup) :
    (∀ a ∈ artifacts, ¬ sink.Holds a.1) ∧ sink.addAll artifacts = (sink ++ artifacts, none) ∨
      ∃ stored key text rest, artifacts = stored ++ (key, text) :: rest ∧
        (∀ a ∈ stored, ¬ sink.Holds a.1) ∧ sink.Holds key ∧
        sink.addAll artifacts = (sink ++ stored, some ⟨key⟩) := by
  induction artifacts generalizing sink with
  | nil => simp [addAll]
  | cons entry artifacts ih =>
    obtain ⟨key, text⟩ := entry
    rw [List.map_cons, List.nodup_cons] at h
    by_cases hkey : sink.Holds key
    · refine .inr ⟨[], key, text, artifacts, rfl, by simp, hkey, ?_⟩
      simp [addAll, add_of_holds hkey]
    · -- the new key is none of those that follow, so they are held as before
      have hheld : ∀ a ∈ artifacts, Sink.Holds (sink ++ [(key, text)]) a.1 ↔ sink.Holds a.1 := by
        intro a ha
        have hmem : a.1 ∈ artifacts.map Prod.fst := List.mem_map_of_mem ha
        have hne : a.1 ≠ key := fun heq => h.1 (heq ▸ hmem)
        simp [Holds, hne]
      have hadd : sink.addAll ((key, text) :: artifacts) =
          Sink.addAll (sink ++ [(key, text)]) artifacts := by
        simp [addAll, add_of_not_holds hkey]
      rcases ih (sink ++ [(key, text)]) h.2 with
        ⟨hnew, heq⟩ | ⟨stored, taken, other, rest, rfl, hnew, htaken, heq⟩
      · refine .inl ⟨?_, by simp [hadd, heq]⟩
        intro a ha
        rcases List.mem_cons.1 ha with rfl | ha
        · exact hkey
        · exact fun hold => hnew a ha ((hheld a ha).2 hold)
      · refine .inr ⟨(key, text) :: stored, taken, other, rest, rfl, ?_, ?_, by simp [hadd, heq]⟩
        · intro a ha
          rcases List.mem_cons.1 ha with rfl | ha
          · exact hkey
          · exact fun hold => hnew a ha ((hheld a (List.mem_append_left _ ha)).2 hold)
        · exact (hheld (taken, other) (by simp)).1 htaken

end Sink

/-! ### Passes -/

namespace Pass

theorem result_eq_ok {p : Pass} {r : PassResult} (h : p.result? = some r) : p.result = .ok r := by
  have hkeys : (r.artifacts.map Prod.fst).Nodup := by
    rw [result?, Option.map_eq_some_iff] at h
    obtain ⟨resolved, -, rfl⟩ := h
    exact nodup_keys_renderAll _ _
  have hadd : Sink.addAll [] r.artifacts = (r.artifacts, none) := by
    rcases Sink.addAll_cases [] hkeys with ⟨-, heq⟩ | ⟨_, _, _, _, -, -, hheld, -⟩
    · exact heq
    · cases hheld
  rw [result, deliver, h, PassResult.deliver]
  simp only [hadd]

end Pass

end Disposal
