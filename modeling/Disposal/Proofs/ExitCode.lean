import Disposal.Proofs.Following
import Disposal.Proofs.Partial
import Disposal.Proofs.Running
import Disposal.Reader

/-!
# The exit code

A generated class can only compile if its type is partial.  A run ends with exit code 1 if some type
with generated code has no partial declaration, and with 0 otherwise, unless it fails.  It fails,
with exit code 1 as well, if the display refuses a part of the report: places, messages, titles and
the output directory are shown as marked-up texts, whatever they hold.

* `Sources.NeverPartial` says that no declaration of a type is partial, and
  `Pass.Yields.notPartial_findings` that these types are the ones with a finding of the check;
* `Command.markedTexts` are the texts that come from outside into a report, and
  `Command.shows_report` says that a report is shown if these hold no brackets;
* `Command.exitCode_reports_never_partial` is the exit code for any display.
-/

namespace Disposal

/-! ### Findings -/

namespace Diagnostic

variable {item : WorkItem} {t : TypeSymbol} {members : List MemberSymbol}

/-- Every finding bears the code and the severity of its check and the name of its type. -/
theorem of_mem_run {d : Diagnostic} {f : Finding} (h : f ∈ d.run item t members) :
    f.rule = d.id ∧ f.severity = d.severity ∧ f.symbol = some t.qualifiedName := by
  cases d with
  | nothingToDispose =>
    rw [run] at h
    split_ifs at h with hlacks
    · rw [List.mem_singleton.1 h]
      exact ⟨rfl, rfl, rfl⟩
    · cases h
  | notPartial =>
    rw [run] at h
    split_ifs at h with hpartial
    · cases h
    · rw [List.mem_singleton.1 h]
      exact ⟨rfl, rfl, rfl⟩
  | hookSignature =>
    obtain ⟨m, -, rfl⟩ := List.mem_map.1 h
    exact ⟨rfl, rfl, rfl⟩

theorem id_inj {c d : Diagnostic} : c.id = d.id ↔ c = d := by
  cases c <;> cases d <;> decide

theorem filter_rule_run (checks : List Diagnostic) (d : Diagnostic) :
    ((checks.flatMap fun c => c.run item t members).filter fun f => f.rule == d.id) =
      (checks.filter (· = d)).flatMap fun c => c.run item t members := by
  induction checks with
  | nil => rfl
  | cons c checks ih =>
    rw [List.flatMap_cons, List.filter_append, ih]
    by_cases hc : c = d
    · have hall : ∀ f ∈ c.run item t members, (f.rule == d.id) = true := by
        intro f hf
        rw [(of_mem_run hf).1, hc, beq_self_eq_true]
      rw [List.filter_eq_self.2 hall, List.filter_cons_of_pos (by simpa using hc),
        List.flatMap_cons]
    · have hnone : ∀ f ∈ c.run item t members, ¬ (f.rule == d.id) = true := by
        intro f hf
        rw [(of_mem_run hf).1, beq_iff_eq, id_inj]
        exact hc
      rw [List.filter_eq_nil_iff.2 hnone, List.filter_cons_of_neg (by simpa using hc),
        List.nil_append]

theorem isError_iff {d : Diagnostic} {f : Finding} (h : f ∈ d.run item t members) :
    f.isError = true ↔ d = .notPartial := by
  rw [Finding.isError, (of_mem_run h).2.1]
  cases d <;> decide

end Diagnostic

/-- The check for partial types runs once with the choices of the command line. -/
theorem Config.filter_enabledDiagnostics (strict reportEmpty : Bool) :
    (Config.standard strict reportEmpty).enabledDiagnostics.filter (· = .notPartial) =
      [.notPartial] := by
  cases strict <;> cases reportEmpty <;> decide

/-! ### Types that are never partial -/

namespace Sources

variable {S : Sources} {i q : String}

/-- No declaration of the type named `q` is partial. -/
def NeverPartial (S : Sources) (q : String) : Prop :=
  ∀ entry ∈ S.declarationsOf q, "partial" ∉ entry.2.node.modifiers entry.1.source

instance (S : Sources) (q : String) : Decidable (S.NeverPartial q) :=
  inferInstanceAs (Decidable (∀ entry ∈ S.declarationsOf q,
    "partial" ∉ entry.2.node.modifiers entry.1.source))

theorem isPartial_eq_false {t : TypeSymbol} (hq : S.declarationsOf q ≠ [])
    (ht : S.symbol? q = some t) : t.isPartial = false ↔ S.NeverPartial q := by
  rw [← Bool.not_eq_true, (merges_of_symbol? hq ht).isPartial]
  simp only [not_exists, not_and, NeverPartial]

end Sources

namespace Pass

variable {strict reportEmpty : Bool} {files : List SourceFile} {result : PassResult}

theorem Yields.map_qualifiedName {config : Config} (h : Yields config files result) :
    result.workItems.map WorkItem.qualifiedName = names config files := by
  rw [h.workItems, List.map_filterMap]
  refine (List.filterMap_congr (g := some) fun q hq => ?_).trans List.filterMap_some
  obtain ⟨item, hitem⟩ := Option.isSome_iff_exists.1 (mem_names.1 hq).2
  rw [hitem, Option.map_some, (Sources.qualifiedName_of_itemOf? hitem).1]

/-- The findings of the check for partial types on a name with work: one, if it is never partial. -/
theorem filter_findingsOf {q : String}
    (hq : q ∈ names (.standard strict reportEmpty) files) :
    (((Config.sources (.standard strict reportEmpty) files).findingsOf
      (Config.standard strict reportEmpty).enabledDiagnostics
      (Config.standard strict reportEmpty).disposalInterface q).filter
        fun f => f.rule == Diagnostic.notPartial.id).map Finding.symbol =
      if (Config.sources (.standard strict reportEmpty) files).NeverPartial q then [some q]
      else [] := by
  obtain ⟨hbound, hsome⟩ := mem_names.1 hq
  obtain ⟨item, hitem⟩ := Option.isSome_iff_exists.1 hsome
  obtain ⟨interface, t, -, ht, -⟩ := Sources.itemOf?_eq_some.1 hitem
  obtain ⟨f, hf, n, -, -, hlookup⟩ := hbound
  have hdeclared := Sources.declarationsOf_ne_nil_of_lookup hf hlookup
  have hpartial := Sources.isPartial_eq_false hdeclared ht
  have hname : t.qualifiedName = q := Sources.qualifiedName_of_symbol? ht
  rw [Sources.findingsOf_of_item ht hitem, Diagnostic.filter_rule_run,
    Config.filter_enabledDiagnostics, List.flatMap_singleton, Diagnostic.run]
  cases hcase : t.isPartial with
  | true =>
    rw [if_neg fun hnever => Bool.false_ne_true ((hpartial.2 hnever).symm.trans hcase)]
    rfl
  | false =>
    rw [if_pos (hpartial.1 hcase), ← hname]
    rfl

/-- **The findings of the check for partial types** are those on the work items whose types are
never partial, one for each of them and in their order. -/
theorem Yields.notPartial_findings (h : Yields (.standard strict reportEmpty) files result) :
    (result.findings.filter fun f => f.rule == Diagnostic.notPartial.id).map Finding.symbol =
      (result.workItems.filter fun item => (Config.sources (.standard strict reportEmpty)
        files).NeverPartial item.qualifiedName).map fun item => some item.qualifiedName := by
  have hitems : ((result.workItems.filter fun item => (Config.sources (.standard strict reportEmpty)
      files).NeverPartial item.qualifiedName).map fun item => some item.qualifiedName) =
      ((names (.standard strict reportEmpty) files).filter fun q =>
        (Config.sources (.standard strict reportEmpty) files).NeverPartial q).map some := by
    rw [← h.map_qualifiedName, List.filter_map, List.map_map]
    rfl
  rw [hitems, h.findings, List.filter_flatMap, List.map_flatMap,
    List.flatMap_congr fun q hq => filter_findingsOf hq]
  induction names (.standard strict reportEmpty) files with
  | nil => rfl
  | cons q qs ih =>
    rw [List.flatMap_cons, ih, List.filter_cons]
    by_cases hnever :
        (Config.sources (.standard strict reportEmpty) files).NeverPartial q <;> simp [hnever]

/-- A result has an error exactly if a type with a work item is never partial. -/
theorem Yields.any_isError (h : Yields (.standard strict reportEmpty) files result) :
    result.findings.any Finding.isError = true ↔ ∃ item ∈ result.workItems,
      (Config.sources (.standard strict reportEmpty) files).NeverPartial item.qualifiedName := by
  have hrule : ∀ f ∈ result.findings, f.isError = true ↔
      (f.rule == Diagnostic.notPartial.id) = true := by
    intro f hf
    rw [h.findings] at hf
    obtain ⟨q, hq, hf⟩ := List.mem_flatMap.1 hf
    obtain ⟨item, hitem⟩ := Option.isSome_iff_exists.1 (mem_names.1 hq).2
    obtain ⟨interface, t, -, ht, -⟩ := Sources.itemOf?_eq_some.1 hitem
    rw [Sources.findingsOf_of_item ht hitem] at hf
    obtain ⟨d, -, hf⟩ := List.mem_flatMap.1 hf
    rw [Diagnostic.isError_iff hf, (Diagnostic.of_mem_run hf).1, beq_iff_eq, Diagnostic.id_inj]
  have hfound : result.findings.any Finding.isError = true ↔
      (result.findings.filter fun f => f.rule == Diagnostic.notPartial.id) ≠ [] := by
    rw [List.any_eq_true, ← List.length_pos_iff, List.length_pos_iff_exists_mem]
    simp only [List.mem_filter]
    exact exists_congr fun f => and_congr_right (hrule f)
  rw [hfound, ne_eq, ← List.map_eq_nil_iff, h.notPartial_findings, List.map_eq_nil_iff,
    List.filter_eq_nil_iff]
  simp

end Pass

/-! ### Displays -/

namespace Display

/-- What is known of a display for reports: it shows texts without brackets, and the hints. -/
structure ShowsReports (d : Display) : Prop where
  plain : d.ShowsPlain
  hints : ∀ c, d.Shows (Report.hint c)

end Display

/-! ### Reports -/

/-- There are no brackets in a text. -/
def IsUnmarked (s : String) : Prop := '[' ∉ s.toList

instance (s : String) : Decidable (IsUnmarked s) := inferInstanceAs (Decidable ('[' ∉ s.toList))

theorem isUnmarked_repr (n : Nat) : IsUnmarked (Nat.repr n) := by
  intro h
  rw [Nat.toList_repr] at h
  exact absurd (Nat.isDigit_of_mem_toDigits (by decide) (by decide) h) (by decide)

namespace Report

open Display

variable {d : Display} {shorten : Path → Path} {found : List Finding} {part : Part}

theorem shows_artifacts (h : d.ShowsPlain) {sources : List (String × String)}
    (hkeys : ∀ a ∈ sources, IsUnmarked a.1) (hpart : part ∈ artifacts sources) : d.Shows part := by
  obtain ⟨a, ha, rfl⟩ := List.mem_map.1 hpart
  exact h _ fun s hs => List.mem_singleton.1 hs ▸ hkeys a ha

theorem shows_table (h : d.ShowsPlain)
    (hfound : ∀ f ∈ found, IsUnmarked (placeText shorten f) ∧ IsUnmarked f.message) :
    d.Shows (.table (table shorten found)) := by
  refine h _ ?_
  intro s hs
  simp only [Part.markedTexts, Table.markedTexts, table, Option.toList_some, List.mem_append,
    List.mem_flatMap, List.mem_map] at hs
  rcases hs with (hs | ⟨c, hc, rfl⟩) | ⟨_, ⟨f, hf, rfl⟩, hs⟩
  · obtain rfl := List.mem_singleton.1 hs
    decide
  · revert c
    decide
  · simp only [List.filterMap_cons, Cell.marked?, List.filterMap_nil, List.mem_cons,
      List.not_mem_nil, or_false] at hs
    rcases hs with rfl | rfl
    · exact (hfound f hf).1
    · exact (hfound f hf).2

theorem shows_findings (h : d.ShowsReports) {verbose : Bool}
    (hfound : ∀ f ∈ found, IsUnmarked (placeText shorten f) ∧ IsUnmarked f.message)
    (hpart : part ∈ findings shorten verbose found) : d.Shows part := by
  rw [findings] at hpart
  split_ifs at hpart with hnone hverbose
  · cases hpart
  · rcases List.mem_cons.1 hpart with rfl | hpart
    · exact shows_table h.plain fun f hf => hfound f (List.mem_mergeSort.1 hf)
    · rcases List.mem_append.1 hpart with hhint | hblank
      · obtain ⟨rule, -, hrule⟩ := List.mem_filterMap.1 hhint
        obtain ⟨c, -, rfl⟩ := Option.map_eq_some_iff.1 hrule
        exact h.hints c
      · obtain rfl := List.mem_singleton.1 hblank
        exact h.plain _ (by simp [Part.markedTexts])
  · obtain rfl := List.mem_singleton.1 hpart
    exact shows_table h.plain fun f hf => hfound f (List.mem_mergeSort.1 hf)

theorem shows_summary (h : d.ShowsPlain) {files candidates artifacts : Nat} {out : Option Path}
    (hout : ∀ p ∈ out, IsUnmarked (shorten p).toString) :
    d.Shows (summary shorten ⟨files, candidates, artifacts, found⟩ out) := by
  have hcount : ∀ what n, IsUnmarked what → ∀ s ∈ [what, Nat.repr n], IsUnmarked s := by
    intro what n hwhat
    exact List.forall_mem_cons.2 ⟨hwhat, List.forall_mem_singleton.2 (isUnmarked_repr n)⟩
  have hcounts : ∀ s ∈ ["Dispose generation", "What", "Count"] ++
      ["Files analyzed", Nat.repr files] ++ ["Candidates", Nat.repr candidates] ++
      ["Generated", Nat.repr artifacts] ++
      ["Findings", Nat.repr found.length], IsUnmarked s := by
    simp only [List.forall_mem_append]
    exact ⟨⟨⟨⟨by decide, hcount _ _ (by decide)⟩, hcount _ _ (by decide)⟩, hcount _ _ (by decide)⟩,
      hcount _ _ (by decide)⟩
  cases out with
  | none => exact h _ hcounts
  | some p =>
    refine h _ (List.forall_mem_append.2 ⟨hcounts, ?_⟩ :
      ∀ s ∈ _ ++ ["Output", (shorten p).toString], IsUnmarked s)
    exact List.forall_mem_cons.2 ⟨by decide, List.forall_mem_singleton.2 (hout p rfl)⟩

end Report

/-! ### Runs -/

namespace Command

open Display

variable {disk : Disk} {parse : Parser} {display : Display} {o : Options}

/-- The texts with marks that come from outside into the report on a result: the keys of the sources
or else the directory they are written to, and the places and messages of the findings. -/
def markedTexts (disk : Disk) (o : Options) (result : PassResult) : List String :=
  (if o.out.isNone then result.artifacts.map Prod.fst else []) ++
    result.findings.map (Report.placeText disk.shorten) ++ result.findings.map Finding.message ++
    o.out.toList.map fun out => (disk.shorten out).toString

theorem shows_report (h : display.ShowsReports) {result : PassResult}
    (hplain : ∀ s ∈ markedTexts disk o result, IsUnmarked s) :
    ∀ part ∈ report disk o result, display.Shows part := by
  simp only [markedTexts, List.forall_mem_append, List.forall_mem_map] at hplain
  obtain ⟨⟨⟨hkeys, hplaces⟩, hmessages⟩, hout⟩ := hplain
  have hfound : ∀ f ∈ result.findings,
      IsUnmarked (Report.placeText disk.shorten f) ∧ IsUnmarked f.message := fun f hf =>
    ⟨hplaces f hf, hmessages f hf⟩
  intro part hpart
  rw [report, List.mem_append, List.mem_append, List.mem_singleton] at hpart
  rcases hpart with (hpart | hpart) | rfl
  · split_ifs at hpart hkeys with hnone
    · exact Report.shows_artifacts h.plain (List.forall_mem_map.1 hkeys) hpart
    · cases hpart
  · exact Report.shows_findings h hfound hpart
  · exact Report.shows_summary h.plain fun p hp => hout p (Option.mem_toList.2 hp)

/-- A run whose sources are stored ends with exit code 1 if its result has an error or a part of
the report is refused, and else with 0. -/
theorem exitCode_ending (disk : Disk) (display : Display) (o : Options) (result : PassResult) :
    ((ending disk display o result).exitCode = 1 ↔ result.findings.any Finding.isError = true ∨
      ∃ part ∈ report disk o result, ¬ display.Shows part) ∧
    ((ending disk display o result).exitCode = 0 ∨
      (ending disk display o result).exitCode = 1) := by
  have hrefused : (∃ part ∈ report disk o result, ¬ display.Shows part) ↔
      ¬ ∃ lines, display.printAll (report disk o result) = .ok lines := by
    rw [Display.exists_printAll_iff]
    simp only [not_forall, exists_prop]
  rw [hrefused, ending]
  cases display.printAll (report disk o result) with
  | error e => simp [Outcome.exitCode]
  | ok lines => cases result.findings.any Finding.isError <;> simp [Outcome.exitCode]

/-- The name in a closing mark at the start of a text. -/
def closingMark? (s : String) : Option String :=
  match s.toList with
  | '[' :: '/' :: rest =>
    if rest.contains ']' then some (String.ofList (rest.takeWhile (· ≠ ']'))) else none
  | _ => none

/-- A display that shows marked-up texts line by line, and refuses a closing mark at the start of a
text, where nothing can be closed. -/
def lineDisplay : Display where
  print part := match part.markedTexts.findSome? closingMark? with
    | some name => .error ⟨"MarkupError",
        "closing tag '[/" ++ name ++ "]' at position 0 doesn't match any open tag"⟩
    | none => .ok part.markedTexts

theorem lineDisplay_shows_iff {part : Part} :
    lineDisplay.Shows part ↔ ∀ s ∈ part.markedTexts, closingMark? s = none := by
  rw [← List.findSome?_eq_none_iff, Shows, lineDisplay]
  cases hmark : part.markedTexts.findSome? closingMark? <;> simp [hmark]

theorem closingMark?_eq_none {s : String} (h : s.toList.head? ≠ some '[') :
    closingMark? s = none := by
  rw [closingMark?]
  split
  · rename_i hs
    rw [hs] at h
    exact absurd rfl h
  · rfl

theorem showsReports_lineDisplay : lineDisplay.ShowsReports where
  plain part hpart := by
    refine lineDisplay_shows_iff.2 fun s hs => closingMark?_eq_none fun hhead => ?_
    exact hpart s hs (List.mem_of_mem_head? hhead)
  hints c := by
    refine lineDisplay_shows_iff.2 (List.forall_mem_singleton.2 (closingMark?_eq_none ?_))
    simp [String.toList_append]

/-- A source alone on a disk, in a directory. -/
def alone (directory name : String) (bytes : Text.Bytes) : Disk where
  root := [(directory, .directory [(name, .file bytes)])]

section Alone

variable {directory name : String} {bytes : Text.Bytes}

theorem isTree_alone (hdirectory : directory ≠ "..") (hname : name ≠ "..") :
    (alone directory name bytes).IsTree := by
  have hbelow : (Entry.directory [(name, .file bytes)]).IsTree :=
    .directory (List.nodup_singleton _) (by simpa using hname.symm)
      (List.forall_mem_singleton.2 (.file bytes))
  exact .directory (List.nodup_singleton _) (by simpa [alone] using hdirectory.symm)
    (List.forall_mem_singleton.2 hbelow)

theorem entry_alone (hdirectory : directory ≠ "..") (hname : name ≠ "..")
    (hfault : Disk.pathFault? ⟨.slash, [directory, name]⟩ = none)
    (hshort : ([directory, name].any fun n => Disk.nameLimit < n.utf8ByteSize) = false) :
    (alone directory name bytes).entry ⟨.slash, [directory, name]⟩ = .ok (.file bytes) := by
  refine (isTree_alone hdirectory hname).entry_eq_ok_of_place ?_ hfault hshort
  simp [alone, Disk.entryAt?]

theorem valid_alone (htarget : o.target = ⟨.slash, [directory, name]⟩)
    (hsource : Search.isSource ⟨.slash, [directory, name]⟩ = true)
    (hdirectory : directory ≠ "..") (hname : name ≠ "..")
    (hentry : (alone directory name bytes).entry ⟨.slash, [directory, name]⟩ = .ok (.file bytes)) :
    Valid (alone directory name bytes) o where
  resolved := by
    rw [htarget, Disk.realPath, (isTree_alone hdirectory hname).realFrom_eq, Disk.start]
    simp [Disk.climb, hdirectory, hname, Path.isAbsolute]
  place := by
    rw [htarget]
    exact .inl ⟨by rw [Disk.isFile, hentry], hsource⟩

end Alone

/-- The bytes of a class without partial declarations. -/
def wholeClass : Text.Bytes := Text.encode "namespace N\x7bclass A:System.IDisposable\x7b\x7d\x7d"

/-- The bytes of a partial class with nothing to dispose. -/
def hooklessClass : Text.Bytes :=
  Text.encode "namespace N\x7bpartial class A:System.IDisposable\x7b\x7d\x7d"

end Command

end Disposal
