import Disposal.Proofs.Agreement
import Mathlib.Algebra.Order.BigOperators.Group.List
import Mathlib.Algebra.Order.Group.Nat
import Mathlib.Data.List.TakeWhile

/-!
# The strict filter

The strict filter takes the classes whose base list names the disposal interface, the loose one
all classes with a base list.  With the strict filter a pass generates some of the sources that it
generates with the loose one, and which of them can be told from the base lists alone.

* `Filter.Names` says which base entries name an interface, and `Filter.accepts_strict` that the
  strict filter looks for these;
* `Sources.NamedFor` says that a class declaration of a type names the interface, and
  `Sources.bound_strict_iff` that these are the types with a strict candidate;
* `Pass.Yields.mem_artifacts` says which sources a result has.

The main statement puts the two passes side by side.
-/

namespace Disposal

/-! ### Base entries that name an interface -/

namespace Filter

variable {i : String} {source : Text.Bytes} {n : Node}

/-- A segment is the last of a name: there is no dot in it, and nothing or a dot stands before
it. -/
def IsLastSegment (name segment : String) : Prop :=
  '.' ∉ segment.toList ∧ (segment = name ∨ ∃ outer, name = outer ++ "." ++ segment)

/-- A base entry names an interface: by its last segment, in full, or from the global namespace
on. -/
inductive Names (i : String) : String → Prop where
  | bare {segment : String} (last : IsLastSegment i segment) : Names i segment
  | qualified : Names i i
  | rooted : Names i ("global::" ++ i)

theorem isLastSegment_lastSegment (name : String) : IsLastSegment name (lastSegment name) := by
  have hsplit := List.takeWhile_append_dropWhile (p := fun c => decide (c ≠ '.'))
    (l := name.toList.reverse)
  rw [IsLastSegment, lastSegment, String.toList_ofList]
  refine ⟨fun hdot => ?_, ?_⟩
  · simpa using List.mem_takeWhile_imp (List.mem_reverse.1 hdot)
  · generalize name.toList.reverse.takeWhile (fun c => decide (c ≠ '.')) = segment at hsplit ⊢
    have hname := congrArg (fun cs => String.ofList cs.reverse) hsplit
    rw [List.reverse_reverse, String.ofList_toList] at hname
    cases hrest : name.toList.reverse.dropWhile (fun c => decide (c ≠ '.')) with
    | nil =>
      rw [hrest, List.append_nil] at hname
      exact .inl hname
    | cons c outer =>
      -- what is left starts with the last dot
      have hc : c = '.' := by
        have hhead := List.head?_dropWhile_not (fun c => decide (c ≠ '.')) name.toList.reverse
        rw [hrest] at hhead
        simpa using hhead
      rw [hrest, hc, List.reverse_append, List.reverse_cons, String.ofList_append,
        String.ofList_append] at hname
      exact .inr ⟨_, hname.symm⟩

theorem eq_lastSegment {name segment : String} (h : IsLastSegment name segment) :
    segment = lastSegment name := by
  obtain ⟨hdot, hname⟩ := h
  have hwhole : ∀ c ∈ segment.toList.reverse, decide (c ≠ '.') = true := by
    intro c hc
    rw [decide_eq_true_eq]
    rintro rfl
    exact hdot (List.mem_reverse.1 hc)
  have htake : name.toList.reverse.takeWhile (fun c => decide (c ≠ '.')) =
      segment.toList.reverse := by
    rcases hname with rfl | ⟨outer, rfl⟩
    · exact List.takeWhile_eq_self_iff.2 hwhole
    · rw [String.toList_append, String.toList_append, List.reverse_append, List.reverse_append,
        List.takeWhile_append_of_pos hwhole]
      simp
  rw [lastSegment, htake, List.reverse_reverse, String.ofList_toList]

theorem mem_namesOf {e : String} : e ∈ namesOf i ↔ Names i e := by
  simp only [namesOf, List.mem_cons, List.not_mem_nil, or_false]
  constructor
  · rintro (rfl | rfl | rfl)
    · exact .bare (isLastSegment_lastSegment i)
    · exact .qualified
    · exact .rooted
  · rintro (last | _ | _)
    · exact .inl (eq_lastSegment last)
    · exact .inr (.inl rfl)
    · exact .inr (.inr rfl)

theorem accepts_strict : (Filter.strict i).accepts source n = true ↔
    n.isClass = true ∧ ∃ e ∈ n.baseEntries source, Names i e := by
  simp only [accepts, Bool.and_eq_true, List.any_eq_true, List.contains_iff_mem, mem_namesOf]

theorem accepts_loose : Filter.loose.accepts source n = true ↔
    n.isClass = true ∧ n.baseEntries source ≠ [] := by
  simp [accepts]

theorem accepts_loose_of_strict (h : (Filter.strict i).accepts source n = true) :
    Filter.loose.accepts source n = true := by
  obtain ⟨hclass, e, he, -⟩ := accepts_strict.1 h
  exact accepts_loose.2 ⟨hclass, List.ne_nil_of_mem he⟩

end Filter

theorem Candidate.length_collect_le {filter wider : Filter}
    (h : ∀ source n, filter.accepts source n = true → wider.accepts source n = true)
    (files : List SourceFile) :
    (collect filter files).length ≤ (collect wider files).length := by
  rw [length_collect, length_collect, List.length_flatMap, List.length_flatMap]
  refine List.sum_le_sum fun f _ => ?_
  exact (List.monotone_filter_right _ (h f.source)).length_le

/-! ### Types with a candidate -/

namespace Sources

variable {S : Sources} {i q : String}

theorem Bound.mono {filter wider : Filter}
    (h : ∀ source n, filter.accepts source n = true → wider.accepts source n = true)
    (hbound : S.Bound filter q) : S.Bound wider q := by
  obtain ⟨f, hf, n, hn, haccepts, hlookup⟩ := hbound
  exact ⟨f, hf, n, hn, h _ _ haccepts, hlookup⟩

/-- A class declaration that resolves to the type `t` names the interface `i` in its base list. -/
def NamedFor (S : Sources) (i : String) (t : TypeSymbol) : Prop :=
  ∃ c f, S.files[c.file]? = some f ∧ c.node ∈ f.root.classDeclarations ∧
    S.model.provider.declaration? c = some t ∧ ∃ e ∈ c.node.baseEntries f.source, Filter.Names i e

/-- A type has a strict candidate if one of its class declarations names the interface. -/
theorem bound_strict_iff {t : TypeSymbol} (ht : S.symbol? q = some t) :
    S.Bound (.strict i) q ↔ S.NamedFor i t := by
  constructor
  · rintro ⟨f, hf, n, hn, haccepts, hlookup⟩
    obtain ⟨index, hindex⟩ := List.mem_iff_getElem?.1 hf
    obtain ⟨hclass, hnamed⟩ := Filter.accepts_strict.1 haccepts
    refine ⟨⟨index, n⟩, f, hindex, Node.mem_classDeclarations.2 ⟨hn, hclass⟩, ?_, hnamed⟩
    rw [declaration?_provider, hindex, Option.bind_some, hlookup, Option.bind_some, ht]
  · rintro ⟨c, f, hindex, hnode, hdecl, hnamed⟩
    obtain ⟨hn, hclass⟩ := Node.mem_classDeclarations.1 hnode
    rw [declaration?_provider, hindex, Option.bind_some, Option.bind_eq_some_iff] at hdecl
    obtain ⟨r, hlookup, hr⟩ := hdecl
    -- the name found at the node is that of the type
    obtain rfl : r = q := (qualifiedName_of_symbol? hr).symm.trans (qualifiedName_of_symbol? ht)
    exact ⟨f, List.mem_of_getElem? hindex, c.node, hn,
      Filter.accepts_strict.2 ⟨hclass, hnamed⟩, hlookup⟩

end Sources

/-! ### The sources of a pass -/

/-- **The sources of a result** are those of the names with a candidate and a work item. -/
theorem Pass.Yields.mem_artifacts {config : Config} {files : List SourceFile}
    {result : PassResult} (h : Pass.Yields config files result) {a : String × String} :
    a ∈ result.artifacts ↔ ∃ q item, (config.sources files).Bound config.filter q ∧
      (config.sources files).itemOf? config.disposalInterface q = some item ∧
      a = (item.artifactKey config.artifactSuffix, item.render) := by
  rw [h.artifacts, h.workItems, List.mem_map]
  constructor
  · rintro ⟨item, hitem, rfl⟩
    obtain ⟨q, hq, hitem⟩ := List.mem_filterMap.1 hitem
    exact ⟨q, item, (mem_names.1 hq).1, hitem, rfl⟩
  · rintro ⟨q, item, hbound, hitem, rfl⟩
    have hq : q ∈ names config files := mem_names.2 ⟨hbound, by rw [hitem]; rfl⟩
    exact ⟨item, List.mem_filterMap.2 ⟨q, hq, hitem⟩, rfl⟩

theorem Sources.eq_of_artifactKey_eq {S : Sources} {i q r suffix : String} {item other : WorkItem}
    (hitem : S.itemOf? i q = some item) (hother : S.itemOf? i r = some other)
    (hkey : item.artifactKey suffix = other.artifactKey suffix) : q = r := by
  obtain ⟨hq, hnamespace⟩ := qualifiedName_of_itemOf? hitem
  obtain ⟨hr, hnamespace'⟩ := qualifiedName_of_itemOf? hother
  rw [← hq, ← hr]
  exact (artifactKey_eq_iff hnamespace hnamespace').1 hkey

/-- **The strict filter restricts the loose one.**  Both passes have results.  Every source of the
strict pass is a source of the loose pass, with the same key and text; the strict pass has no more
candidates; and every source of the loose pass is that of a type, which the strict pass leaves out
exactly if no class declaration of the type names the interface in its base list. -/
theorem strict_restricts_loose (config : Config) (files : List SourceFile) (i : String) :
    ∃ strict loose,
      (Pass.ofFiles { config with filter := .strict i } files).result = .ok strict ∧
      (Pass.ofFiles { config with filter := .loose } files).result = .ok loose ∧
      strict.artifacts ⊆ loose.artifacts ∧
      strict.candidateCount ≤ loose.candidateCount ∧
      ∀ a ∈ loose.artifacts, ∃ t,
        (config.sources files).model.provider.typeNamed? t.qualifiedName = some t ∧
        a.1 = t.qualifiedName ++ ".Dispose" ++ config.artifactSuffix ∧
        (a ∉ strict.artifacts ↔ ¬ (config.sources files).NamedFor i t) := by
  obtain ⟨strict, hstrict, hsyields⟩ :=
    Pass.exists_yields { config with filter := .strict i } files
  obtain ⟨loose, hloose, hlyields⟩ := Pass.exists_yields { config with filter := .loose } files
  refine ⟨strict, loose, hstrict, hloose, ?_, ?_, ?_⟩
  · intro a ha
    obtain ⟨q, item, hbound, hitem, rfl⟩ := hsyields.mem_artifacts.1 ha
    exact hlyields.mem_artifacts.2
      ⟨q, item, hbound.mono fun _ _ => Filter.accepts_loose_of_strict, hitem, rfl⟩
  · rw [hsyields.candidateCount, hlyields.candidateCount]
    exact Candidate.length_collect_le (fun _ _ => Filter.accepts_loose_of_strict) files
  · intro a ha
    obtain ⟨q, item, -, hitem, rfl⟩ := hlyields.mem_artifacts.1 ha
    have hitem : (config.sources files).itemOf? config.disposalInterface q = some item := hitem
    obtain ⟨interface, t, -, ht, -⟩ := Sources.itemOf?_eq_some.1 hitem
    obtain ⟨hname, hnamespace⟩ := Sources.qualifiedName_of_itemOf? hitem
    have hq : t.qualifiedName = q := Sources.qualifiedName_of_symbol? ht
    refine ⟨t, ?_, ?_, not_congr ?_⟩
    · rw [hq]
      exact (Sources.get?_model q).trans ht
    · rw [hq, ← hname]
      exact WorkItem.artifactKey_eq hnamespace _
    · rw [← Sources.bound_strict_iff ht, hsyields.mem_artifacts]
      constructor
      · rintro ⟨r, other, hbound, hother, heq⟩
        have hkey := congrArg Prod.fst heq
        obtain rfl := Sources.eq_of_artifactKey_eq hitem hother hkey
        exact hbound
      · exact fun hbound => ⟨q, item, hbound, hitem, rfl⟩

end Disposal
