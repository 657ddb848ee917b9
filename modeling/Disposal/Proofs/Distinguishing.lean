import Disposal.Artifact
import Mathlib.Data.List.Infix
import Mathlib.Tactic.SplitIfs

/-!
# What a generated source tells of its work item

The source generated for a work item shows everything that the work item says, apart from the
members of a type whose own hook disposes them.  Names may be any text on one line: what stands
between two names is always enough to tell where the one ends and the other begins.

* `Artifact.text_eq_iff`: a text determines its lines;
* `WorkItem.classHeader_eq_iff`: the header of a class determines accessibility and name, because
  no way to start a header is the start of another one;
* `WorkItem.paragraphs_members`: the lines of a class with work, cut at the brace behind the
  managed cleanup, which is never a line of that cleanup;
* `WorkItem.render_eq_iff` puts these together.
-/

namespace Disposal

theorem eq_and_eq_of_append_cons_eq {α : Type} {x : α} {l m r s : List α} (hl : x ∉ l) (hm : x ∉ m)
    (h : l ++ x :: r = m ++ x :: s) : l = m ∧ r = s := by
  rcases List.append_eq_append_iff.1 h with ⟨t, rfl, ht⟩ | ⟨t, rfl, ht⟩
  · cases t with
    | nil => simpa using ht
    | cons y t =>
      obtain ⟨rfl, -⟩ := List.cons.inj ht
      simp at hm
  · cases t with
    | nil => simpa [eq_comm] using ht
    | cons y t =>
      obtain ⟨rfl, -⟩ := List.cons.inj ht
      simp at hl

/-! ### Lines -/

namespace Artifact

/-- Whether a text stands on one line. -/
def IsOneLine (s : String) : Prop := '\n' ∉ s.toList

instance (s : String) : Decidable (IsOneLine s) := inferInstanceAs (Decidable ('\n' ∉ s.toList))

theorem IsOneLine.append {s t : String} (hs : IsOneLine s) (ht : IsOneLine t) :
    IsOneLine (s ++ t) := by
  simpa [IsOneLine] using ⟨hs, ht⟩

theorem isOneLine_code {s : String} (depth : Nat) (h : IsOneLine s) :
    IsOneLine (Line.code depth s).toString := by
  refine IsOneLine.append ?_ h
  simp [IsOneLine, List.mem_replicate]

/-- **A text determines its lines** if each of them stands on one line. -/
theorem text_eq_iff {ls ms : List Line} (hls : ∀ l ∈ ls, IsOneLine l.toString)
    (hms : ∀ l ∈ ms, IsOneLine l.toString) :
    text ls = text ms ↔ ls.map Line.toString = ms.map Line.toString := by
  have hcons : ∀ (l : Line) (ls : List Line),
      (text (l :: ls)).toList = l.toString.toList ++ '\n' :: (text ls).toList := fun l ls => by
    simp [text_cons]
  refine ⟨fun h => ?_, fun h => ?_⟩
  · induction ls generalizing ms with
    | nil =>
      cases ms with
      | nil => rfl
      | cons m ms =>
        have hlists := congrArg String.toList h
        simp [text] at hlists
    | cons l ls ih =>
      cases ms with
      | nil =>
        have hlists := congrArg String.toList h
        simp [text] at hlists
      | cons m ms =>
        have hlists := congrArg String.toList h
        rw [hcons, hcons] at hlists
        obtain ⟨hfirst, hrest⟩ := eq_and_eq_of_append_cons_eq (hls l List.mem_cons_self)
          (hms m List.mem_cons_self) hlists
        rw [List.map_cons, List.map_cons, String.toList_inj.1 hfirst,
          ih (fun l hl => hls l (List.mem_cons_of_mem _ hl))
            (fun m hm => hms m (List.mem_cons_of_mem _ hm)) (String.toList_inj.1 hrest)]
  · have hlines : ∀ ls : List Line,
        text ls = String.join ((ls.map Line.toString).map fun s => s ++ "\n") := fun ls => by
      simp [text, Function.comp_def]
    rw [hlines, hlines, h]

@[simp] theorem toString_code_inj {depth : Nat} {s t : String} :
    (Line.code depth s).toString = (Line.code depth t).toString ↔ s = t := by
  simp [Line.toString, ← String.toList_inj]

end Artifact

namespace WorkItem

open Artifact

/-! ### The header of a class -/

/-- How the header of a class with a given accessibility starts. -/
def headerStart (a : Accessibility) : String :=
  (if a.text = "" then "" else a.text ++ " ") ++ "partial class "

theorem classHeader_eq (item : WorkItem) :
    item.classHeader = headerStart item.accessibility ++ item.className := rfl

theorem headerStart_inj_of_isPrefix {a b : Accessibility}
    (h : (headerStart a).toList <+: (headerStart b).toList) : a = b := by
  have hmem : ∀ a : Accessibility, a ∈ Accessibility.all := by
    intro a
    cases a <;> decide
  have hall : (Accessibility.all.all fun a => Accessibility.all.all fun b =>
      !(headerStart a).toList.isPrefixOf (headerStart b).toList || a == b) = true := by
    decide +kernel
  simp only [List.all_eq_true, Bool.or_eq_true, Bool.not_eq_true', beq_iff_eq] at hall
  exact (hall a (hmem a) b (hmem b)).resolve_left (by simpa using h)

/-- **The header of a class** determines its accessibility and its name. -/
theorem classHeader_eq_iff {a b : WorkItem} : a.classHeader = b.classHeader ↔
    a.accessibility = b.accessibility ∧ a.className = b.className := by
  refine ⟨fun h => ?_, fun ⟨haccess, hclass⟩ => by rw [classHeader_eq, haccess, hclass]; rfl⟩
  have hlists := congrArg String.toList h
  rw [classHeader_eq, classHeader_eq, String.toList_append, String.toList_append] at hlists
  have haccess : a.accessibility = b.accessibility := by
    have ha := List.prefix_append (headerStart a.accessibility).toList a.className.toList
    have hb := List.prefix_append (headerStart b.accessibility).toList b.className.toList
    rw [hlists] at ha
    exact (List.prefix_or_prefix_of_prefix ha hb).elim headerStart_inj_of_isPrefix
      fun h => (headerStart_inj_of_isPrefix h).symm
  rw [haccess] at hlists
  exact ⟨haccess, String.toList_inj.1 (List.append_cancel_left hlists)⟩

/-! ### The body of a class -/

/-- The lines of a class with work up to the managed cleanup. -/
def bodyStart : List Line :=
  [.code 2 ("private bool " ++ disposedFlag ++ " = false;"), .blank] ++
    block 2 "public void Dispose()"
      [.code 3 "Dispose(true);", .code 3 "GC.SuppressFinalize(this);"] ++
    [.blank, .code 2 ("private void Dispose(bool " ++ disposingParameter ++ ")"), .code 2 "\x7b"] ++
    block 3 ("if (" ++ disposedFlag ++ ")") [.code 4 "return;"] ++
    [.blank, .code 3 ("if (" ++ disposingParameter ++ ")"), .code 3 "\x7b"]

/-- The lines of a class with work behind the brace that closes the managed cleanup. -/
def bodyEnd (item : WorkItem) : List Line :=
  (if item.unmanagedHook then [.blank, .code 3 "DisposeUnmanaged();"] else []) ++
    [.blank, .code 3 (disposedFlag ++ " = true;"), .code 2 "\x7d"] ++
    (if item.unmanagedHook then
      [.blank, .code 2 ("~" ++ item.className ++ "() => Dispose(false);")] else [])

theorem paragraphs_members {item : WorkItem} (h : item.hasWork = true) :
    paragraphs item.members =
      bodyStart ++ item.managedCleanup ++ .code 3 "\x7d" :: item.bodyEnd := by
  cases hu : item.unmanagedHook <;>
    simp [members, publicDispose, privateDispose, paragraphs, block, bodyStart, bodyEnd, h, hu]

theorem paragraphs_members_of_lacksWork {item : WorkItem} (h : item.hasWork = false) :
    paragraphs item.members = block 2 "public void Dispose()" [] := by
  obtain ⟨hunmanaged, -, -⟩ := hasWork_eq_false.1 h
  simp [members, publicDispose, paragraphs, h, hunmanaged]

/-- The call of the hook is not the disposal of a member. -/
theorem hookCall_ne_memberCall (name : String) : "DisposeManaged();" ≠ name ++ ".Dispose();" := by
  intro h
  have hsuffix : ".Dispose();".toList <:+ "DisposeManaged();".toList := by
    rw [h, String.toList_append]
    exact List.suffix_append _ _
  revert hsuffix
  decide

/-- A statement does not end like the brace behind it. -/
theorem close_notMem_managedCleanup (item : WorkItem) :
    (Line.code 3 "\x7d").toString ∉ item.managedCleanup.map Line.toString := by
  have hne : ∀ s : String, (Line.code 4 (s ++ ";")).toString ≠ (Line.code 3 "\x7d").toString := by
    intro s h
    have hlast := congrArg (fun t : String => t.toList.reverse.head?) h
    simp [Line.toString] at hlast
  intro h
  obtain ⟨l, hl, heq⟩ := List.mem_map.1 h
  unfold managedCleanup at hl
  split_ifs at hl
  · rw [List.mem_singleton.1 hl] at heq
    exact hne "DisposeManaged()" heq
  · obtain ⟨name, -, rfl⟩ := List.mem_map.1 hl
    refine hne (name ++ ".Dispose()") ?_
    rw [String.append_assoc]
    exact heq

/-- **The managed cleanup** tells whether there is a hook, and without one it lists the members. -/
theorem managedCleanup_eq_iff {a b : WorkItem} :
    a.managedCleanup.map Line.toString = b.managedCleanup.map Line.toString ↔
      a.managedHook = b.managedHook ∧ (a.managedHook = false → a.memberNames = b.memberNames) := by
  have hmembers : ∀ names : List String,
      [(Line.code 4 "DisposeManaged();").toString] ≠
        (names.map fun name => Line.code 4 (name ++ ".Dispose();")).map Line.toString := by
    intro names h
    match names with
    | [] => cases h
    | [name] =>
      rw [List.map_singleton, List.map_singleton, List.singleton_inj, toString_code_inj] at h
      exact hookCall_ne_memberCall name h
    | _ :: _ :: _ => cases (List.cons.inj h).2
  have hinj : Function.Injective fun name : String =>
      (Line.code 4 (name ++ ".Dispose();")).toString := by
    intro name name' h
    rw [toString_code_inj, ← String.toList_inj, String.toList_append, String.toList_append] at h
    exact String.toList_inj.1 (List.append_cancel_right h)
  unfold managedCleanup
  cases a.managedHook <;> cases b.managedHook
  · simp only [Bool.false_eq_true, ↓reduceIte, List.map_map, Function.comp_def, forall_const,
      true_and]
    exact hinj.list_map.eq_iff
  · simp only [Bool.false_eq_true, ↓reduceIte, List.map_singleton, false_and, iff_false]
    exact (hmembers a.memberNames).symm
  · simp only [Bool.false_eq_true, ↓reduceIte, List.map_singleton, reduceCtorEq, false_and,
      iff_false]
    exact hmembers b.memberNames
  · simp

/-- What stands behind the managed cleanup tells whether there is a hook for unmanaged resources. -/
theorem bodyEnd_eq_iff {a b : WorkItem} (hclass : a.className = b.className) :
    a.bodyEnd.map Line.toString = b.bodyEnd.map Line.toString ↔
      a.unmanagedHook = b.unmanagedHook := by
  refine ⟨fun h => ?_, fun h => by rw [bodyEnd, bodyEnd, h, hclass]⟩
  have hsecond := congrArg (fun ls : List String => ls[1]?) h
  unfold bodyEnd at hsecond
  revert hsecond
  cases a.unmanagedHook <;> cases b.unmanagedHook <;> simp [disposedFlag]

/-! ### The whole text -/

/-- The names in a work item stand on one line each. -/
structure HasLineNames (item : WorkItem) : Prop where
  namespaceName : IsOneLine item.namespaceName
  className : IsOneLine item.className
  memberNames : ∀ name ∈ item.memberNames, IsOneLine name

theorem lines_eq_iff {a b : WorkItem} :
    a.lines.map Line.toString = b.lines.map Line.toString ↔
      a.namespaceName = b.namespaceName ∧ a.classHeader = b.classHeader ∧
        (paragraphs a.members).map Line.toString = (paragraphs b.members).map Line.toString := by
  simp [lines, block]

theorem map_paragraphs_members_ne {a b : WorkItem} (ha : a.hasWork = true)
    (hb : b.hasWork = false) :
    (paragraphs a.members).map Line.toString ≠ (paragraphs b.members).map Line.toString := by
  rw [paragraphs_members ha, paragraphs_members_of_lacksWork hb]
  intro h
  have hfirst : (Line.code 2 ("private bool " ++ disposedFlag ++ " = false;")).toString =
      (Line.code 2 "public void Dispose()").toString := (List.cons.inj h).1
  rw [toString_code_inj] at hfirst
  revert hfirst
  decide

/-- What a class disposes, apart from its names. -/
def SameCleanup (a b : WorkItem) : Prop :=
  a.managedHook = b.managedHook ∧ a.unmanagedHook = b.unmanagedHook ∧
    (a.managedHook = false → a.memberNames = b.memberNames)

theorem SameCleanup.hasWork_eq {a b : WorkItem} (h : SameCleanup a b) : a.hasWork = b.hasWork := by
  obtain ⟨hmanaged, hunmanaged, hnames⟩ := h
  rw [hasWork, hasWork, hmanaged, hunmanaged]
  cases hb : b.managedHook
  · rw [hnames (hmanaged.trans hb)]
  · simp

/-- **The members of two classes of one name** have the same lines exactly if the classes dispose
the same. -/
theorem map_paragraphs_members_eq_iff {a b : WorkItem} (hclass : a.className = b.className) :
    (paragraphs a.members).map Line.toString = (paragraphs b.members).map Line.toString ↔
      SameCleanup a b := by
  cases ha : a.hasWork <;> cases hb : b.hasWork
  · -- neither has work, so that there are no hooks and no members
    obtain ⟨hunmanaged, hmanaged, hnames⟩ := hasWork_eq_false.1 ha
    obtain ⟨hunmanaged', hmanaged', hnames'⟩ := hasWork_eq_false.1 hb
    rw [paragraphs_members_of_lacksWork ha, paragraphs_members_of_lacksWork hb]
    exact iff_of_true rfl ⟨hmanaged.trans hmanaged'.symm, hunmanaged.trans hunmanaged'.symm,
      fun _ => hnames.trans hnames'.symm⟩
  · exact iff_of_false (map_paragraphs_members_ne hb ha).symm fun h => by
      simp [h.hasWork_eq, hb] at ha
  · exact iff_of_false (map_paragraphs_members_ne ha hb) fun h => by simp [h.hasWork_eq, hb] at ha
  · rw [paragraphs_members ha, paragraphs_members hb]
    simp only [List.append_assoc, List.map_append, List.append_cancel_left_eq, List.map_cons]
    constructor
    · intro h
      obtain ⟨hcleanup, hend⟩ := eq_and_eq_of_append_cons_eq (close_notMem_managedCleanup a)
        (close_notMem_managedCleanup b) h
      obtain ⟨hmanaged, hnames⟩ := managedCleanup_eq_iff.1 hcleanup
      exact ⟨hmanaged, (bodyEnd_eq_iff hclass).1 hend, hnames⟩
    · rintro ⟨hmanaged, hunmanaged, hnames⟩
      rw [managedCleanup_eq_iff.2 ⟨hmanaged, hnames⟩, (bodyEnd_eq_iff hclass).2 hunmanaged]

/-- Every line of a generated source stands on one line, if the names in it do. -/
theorem HasLineNames.isOneLine {item : WorkItem} (h : item.HasLineNames) :
    ∀ l ∈ item.lines, IsOneLine l.toString := by
  have hheader : IsOneLine item.classHeader := by
    rw [classHeader_eq]
    refine IsOneLine.append ?_ h.className
    cases item.accessibility <;> decide
  have hcleanup : ∀ l ∈ item.managedCleanup, IsOneLine l.toString := by
    unfold managedCleanup
    split_ifs
    · decide
    · intro l hl
      obtain ⟨name, hname, rfl⟩ := List.mem_map.1 hl
      exact isOneLine_code 4 ((h.memberNames name hname).append (by decide))
  have hend : ∀ l ∈ item.bodyEnd, IsOneLine l.toString := by
    have hfinalizer : IsOneLine ("~" ++ item.className ++ "() => Dispose(false);") :=
      (IsOneLine.append (by decide) h.className).append (by decide)
    unfold bodyEnd
    refine List.forall_mem_append.2 ⟨List.forall_mem_append.2 ⟨?_, by decide⟩, ?_⟩
    · split_ifs <;> decide
    · split_ifs
      · exact List.forall_mem_cons.2
          ⟨by decide, List.forall_mem_singleton.2 (isOneLine_code 2 hfinalizer)⟩
      · exact List.forall_mem_nil _
  have hbody : ∀ l ∈ paragraphs item.members, IsOneLine l.toString := by
    cases hwork : item.hasWork
    · rw [paragraphs_members_of_lacksWork hwork]
      decide
    · rw [paragraphs_members hwork]
      exact List.forall_mem_append.2 ⟨List.forall_mem_append.2 ⟨by decide +kernel, hcleanup⟩,
        List.forall_mem_cons.2 ⟨by decide, hend⟩⟩
  have hblock : ∀ (depth : Nat) {header : String} {body : List Line}, IsOneLine header →
      (∀ l ∈ body, IsOneLine l.toString) → ∀ l ∈ block depth header body, IsOneLine l.toString := by
    intro depth header body hheader hbody
    refine List.forall_mem_append.2 ⟨List.forall_mem_append.2 ⟨List.forall_mem_cons.2
      ⟨isOneLine_code depth hheader, ?_⟩, hbody⟩, ?_⟩ <;>
    exact List.forall_mem_singleton.2 (isOneLine_code depth (by decide))
  have hnamespace : IsOneLine ("namespace " ++ item.namespaceName) :=
    IsOneLine.append (by decide) h.namespaceName
  exact List.forall_mem_append.2 ⟨by decide, hblock 0 hnamespace (hblock 1 hheader hbody)⟩

/-- **The text of a work item** determines the work item up to the members that the managed hook
takes over. -/
theorem render_eq_iff {a b : WorkItem} (ha : a.HasLineNames) (hb : b.HasLineNames) :
    a.render = b.render ↔
      a.namespaceName = b.namespaceName ∧ a.className = b.className ∧
        a.accessibility = b.accessibility ∧ a.managedHook = b.managedHook ∧
        a.unmanagedHook = b.unmanagedHook ∧
        (a.managedHook = false → a.memberNames = b.memberNames) := by
  rw [render, render, text_eq_iff ha.isOneLine hb.isOneLine, lines_eq_iff, classHeader_eq_iff]
  constructor
  · rintro ⟨hnamespace, ⟨haccess, hclass⟩, hmembers⟩
    exact ⟨hnamespace, hclass, haccess, (map_paragraphs_members_eq_iff hclass).1 hmembers⟩
  · rintro ⟨hnamespace, hclass, haccess, hcleanup⟩
    exact ⟨hnamespace, ⟨haccess, hclass⟩, (map_paragraphs_members_eq_iff hclass).2 hcleanup⟩

/-- A class with hooks for both kinds of resources and a member. -/
def hookedItem : WorkItem where
  namespaceName := "N"
  className := "C"
  accessibility := .publicAccess
  memberNames := ["s"]
  managedHook := true
  unmanagedHook := true

theorem render_eq_iff_hookedItem :
    hookedItem.HasLineNames ∧ { hookedItem with memberNames := [] }.HasLineNames ∧
      hookedItem.render = { hookedItem with memberNames := [] }.render ∧
      hookedItem.render ≠ { hookedItem with managedHook := false }.render := by
  have hnames : hookedItem.HasLineNames := ⟨by decide, by decide, by decide⟩
  have hnone : { hookedItem with memberNames := [] }.HasLineNames :=
    ⟨by decide, by decide, by decide⟩
  have hunhooked : { hookedItem with managedHook := false }.HasLineNames :=
    ⟨by decide, by decide, by decide⟩
  refine ⟨hnames, hnone, (render_eq_iff hnames hnone).2 ?_, fun h => ?_⟩
  · exact ⟨rfl, rfl, rfl, rfl, rfl, fun h => by cases h⟩
  · obtain ⟨-, -, -, hhook, -⟩ := (render_eq_iff hnames hunhooked).1 h
    cases hhook

end WorkItem

end Disposal
