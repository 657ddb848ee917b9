import Disposal.Artifact
import Disposal.Proofs.Program

/-!
# Generated code disposes once

The source generated for a work item, read as a program and run: whatever calls of `Dispose()`
and of the finalizer come from outside and in whatever order, the first of them cleans up and the
others do nothing.

* `Program.ReadsAs` says what items some lines of generated source are, piece by piece;
* `WorkItem.code` is the class that is generated, and `WorkItem.read?_render` reads it back from
  the text;
* `WorkItem.cleanup` is what has to be cleaned up, `WorkItem.execAll_privateBody` is one run of
  the method that does it;
* `render_disposes_once` is the result for any list of calls.
-/

namespace Disposal

open Artifact

namespace Program

/-! ### Names -/

/-- Names with dots between them. -/
inductive IsDotted : String → Prop where
  | name {s : String} (h : IsName s) : IsDotted s
  | dot {s t : String} (h : IsName s) (rest : IsDotted t) : IsDotted (s ++ "." ++ t)

theorem IsName.ne_of_not {s w : String} (h : IsName s) {c : Char} (hc : c ∈ w.toList)
    (hname : isNameChar c = false) : s ≠ w := by
  rintro rfl
  rw [h.2 c hc] at hname
  cases hname

theorem IsName.isPlain {s : String} (h : IsName s) : IsPlain s :=
  ⟨h.ne_of_not (c := ';') (by decide) (by decide),
    h.ne_of_not (c := '\x7b') (by decide) (by decide),
    h.ne_of_not (c := '\x7d') (by decide) (by decide)⟩

theorem IsName.ne_equals {s : String} (h : IsName s) : s ≠ "=" :=
  h.ne_of_not (c := '=') (by decide) (by decide)

theorem IsName.words_dot {s : String} (h : IsName s) (t : String) :
    words (s ++ "." ++ t) = s :: "." :: words t := by
  have hdot : words "." = ["."] := by decide
  rw [words_append_right (by simp; decide), words_append (by decide), h.words_eq, hdot]
  rfl

theorem IsDotted.isPlain {s : String} (h : IsDotted s) : ∀ w ∈ words s, IsPlain w := by
  induction h with
  | name h =>
    rw [h.words_eq]
    intro w hw
    rw [List.mem_singleton.1 hw]
    exact h.isPlain
  | @dot s t h _ ih =>
    rw [h.words_dot]
    exact List.forall_mem_cons.2 ⟨h.isPlain, List.forall_mem_cons.2 ⟨by decide, ih⟩⟩

/-! ### Lines -/

/-- The words of a line. -/
def lineWords : Line → List String
  | .blank => []
  | .code _ text => words text

theorem words_indent (n : Nat) : words (String.ofList (List.replicate n ' ')) = [] := by
  rw [words, String.toList_ofList]
  induction n with
  | zero => rfl
  | succ n ih =>
    rw [List.replicate_succ, wordsFrom]
    exact ih

theorem words_line (l : Line) : words l.toString = lineWords l := by
  cases l with
  | blank => rfl
  | code depth text =>
    rw [Line.toString, words_append_right ?_, words_indent, List.nil_append, lineWords]
    have hspace : isNameChar ' ' = false := by decide
    rw [String.toList_ofList, List.getLast?_replicate]
    split_ifs <;> simp [hspace]

theorem words_text (ls : List Line) : words (text ls) = ls.flatMap lineWords := by
  induction ls with
  | nil => rfl
  | cons l ls ih =>
    have hend : words "\n" = [] := by decide
    rw [text_cons, words_append_right (by simp; decide), words_append (by decide), hend,
      words_line, ih, List.append_nil, List.flatMap_cons]

/-- The lines are read as the items, wherever they stand. -/
def ReadsAs (ls : List Line) (is : List Item) : Prop := Reads (ls.flatMap lineWords) is

namespace ReadsAs

theorem nil : ReadsAs [] [] := Reads.nil

theorem append {ls ms : List Line} {is js : List Item} (h : ReadsAs ls is) (h' : ReadsAs ms js) :
    ReadsAs (ls ++ ms) (is ++ js) := by
  rw [ReadsAs, List.flatMap_append]
  exact Reads.append h h'

theorem line (depth : Nat) {text : String} {ws : List String} (htext : words text = ws ++ [";"])
    (hws : ∀ w ∈ ws, IsPlain w) : ReadsAs [.code depth text] [.simple ws] := by
  have hwords : [Line.code depth text].flatMap lineWords = ws ++ [";"] := by
    simp [lineWords, htext]
  rw [ReadsAs, hwords]
  exact Reads.simple hws

theorem block (depth : Nat) {header : String} {ws : List String} {body : List Line}
    {is : List Item} (hheader : words header = ws) (hws : ∀ w ∈ ws, IsPlain w)
    (hbody : ReadsAs body is) : ReadsAs (Artifact.block depth header body) [.block ws is] := by
  have hopen : words "\x7b" = ["\x7b"] := by decide
  have hclose : words "\x7d" = ["\x7d"] := by decide
  have hwords : (Artifact.block depth header body).flatMap lineWords =
      ws ++ ["\x7b"] ++ body.flatMap lineWords ++ ["\x7d"] := by
    simp [Artifact.block, lineWords, hheader, hopen, hclose]
  rw [ReadsAs, hwords]
  exact Reads.block hws hbody

theorem noParagraphs : ReadsAs (paragraphs []) [] := Reads.nil

/-- A blank line between the parts of a body is not read. -/
theorem paragraph {part : List Line} {parts : List (List Line)} {is js : List Item}
    (h : ReadsAs part is) (hparts : ReadsAs (paragraphs parts) js) :
    ReadsAs (paragraphs (part :: parts)) (is ++ js) := by
  cases parts with
  | nil => simpa [paragraphs] using h.append hparts
  | cons next parts =>
    have hblank : ReadsAs [.blank] [] := Reads.nil
    exact h.append (hblank.append hparts)

end ReadsAs

end Program

/-! ### The generated class -/

namespace WorkItem

open Program

variable {item : WorkItem}

/-- The calls that clean up managed resources. -/
def managedCalls (item : WorkItem) : List (List String) :=
  if item.managedHook then [["DisposeManaged", "(", ")"]]
  else item.memberNames.map fun m => [m, ".", "Dispose", "(", ")"]

/-- The calls that clean up unmanaged resources. -/
def unmanagedCalls (item : WorkItem) : List (List String) :=
  if item.unmanagedHook then [["DisposeUnmanaged", "(", ")"]] else []

/-- The statements of the private method. -/
def privateBody (item : WorkItem) : List Statement :=
  [.ifFlag disposedFlag [.leave], .ifFlag disposingParameter (item.managedCalls.map .call)] ++
    item.unmanagedCalls.map .call ++ [.assign disposedFlag true]

/-- The private method that cleans up. -/
def privateMethod (item : WorkItem) : Method :=
  ⟨"private", "Dispose", some disposingParameter, item.privateBody⟩

/-- The public method; it does nothing if there is nothing to clean up. -/
def publicMethod (item : WorkItem) : Method where
  access := "public"
  name := "Dispose"
  parameter := none
  body := if item.hasWork then [.call ["Dispose", "(", "true", ")"], .call suppressFinalize] else []

/-- The class that is generated for a work item. -/
def code (item : WorkItem) : ClassCode where
  name := item.className
  flags := if item.hasWork then [(disposedFlag, false)] else []
  methods := item.publicMethod :: if item.hasWork then [item.privateMethod] else []
  finalizer :=
    if item.unmanagedHook then some [.call ["Dispose", "(", "false", ")"]] else none

/-! ### Reading it back -/

/-- The items of some calls. -/
def callItems (calls : List (List String)) : List Item := calls.map .simple

theorem statements?_append (is js : List Item) : Item.statements? (is ++ js) =
    (Item.statements? is).bind fun ss => (Item.statements? js).map (ss ++ ·) := by
  induction is with
  | nil => cases h : Item.statements? js <;> simp [Item.statements?, h]
  | cons i is ih =>
    rw [List.cons_append, Item.statements?, ih, Item.statements?]
    cases i.statement? with
    | none => rfl
    | some s => cases Item.statements? is <;> cases Item.statements? js <;> rfl

theorem statements?_calls {calls : List (List String)}
    (h : ∀ ws ∈ calls, simpleStatement? ws = some (.call ws)) :
    Item.statements? (callItems calls) = some (calls.map .call) := by
  induction calls with
  | nil => rfl
  | cons ws calls ih =>
    have hrest := ih fun vs hvs => h vs (List.mem_cons_of_mem _ hvs)
    rw [callItems] at hrest
    rw [callItems, List.map_cons, Item.statements?, Item.statement?, h ws List.mem_cons_self, hrest]
    rfl

theorem simpleStatement?_managed (hmembers : ∀ m ∈ item.memberNames, IsName m) :
    ∀ ws ∈ item.managedCalls, simpleStatement? ws = some (.call ws) := by
  intro ws hws
  rw [managedCalls] at hws
  split_ifs at hws
  · rw [List.mem_singleton.1 hws]
    rfl
  · obtain ⟨m, hm, rfl⟩ := List.mem_map.1 hws
    have hne := (hmembers m hm).ne_equals
    simp [simpleStatement?, Ne.symm hne]

theorem simpleStatement?_unmanaged (item : WorkItem) :
    ∀ ws ∈ item.unmanagedCalls, simpleStatement? ws = some (.call ws) := by
  intro ws hws
  rw [unmanagedCalls] at hws
  split_ifs at hws
  · rw [List.mem_singleton.1 hws]
    rfl
  · cases hws

/-- The items of the body of the private method. -/
def privateItems (item : WorkItem) : List Item :=
  [.block ["if", "(", disposedFlag, ")"] [.simple ["return"]],
    .block ["if", "(", disposingParameter, ")"] (callItems item.managedCalls)] ++
    callItems item.unmanagedCalls ++ [.simple [disposedFlag, "=", "true"]]

theorem statements?_private (hmembers : ∀ m ∈ item.memberNames, IsName m) :
    Item.statements? item.privateItems = some item.privateBody := by
  have hmanaged := statements?_calls (simpleStatement?_managed hmembers)
  have hunmanaged := statements?_calls (simpleStatement?_unmanaged item)
  have hguards : Item.statements? [.block ["if", "(", disposedFlag, ")"] [.simple ["return"]],
      .block ["if", "(", disposingParameter, ")"] (callItems item.managedCalls)] =
      some [.ifFlag disposedFlag [.leave],
        .ifFlag disposingParameter (item.managedCalls.map .call)] := by
    simp [Item.statements?, Item.statement?, condition?, simpleStatement?, hmanaged]
  have hlast : Item.statements? [.simple [disposedFlag, "=", "true"]] =
      some [.assign disposedFlag true] := by
    simp [Item.statements?, Item.statement?, simpleStatement?, truth?]
  rw [privateItems, statements?_append, statements?_append, hguards, hunmanaged, hlast]
  rfl

theorem readsAs_managed (hmembers : ∀ m ∈ item.memberNames, IsName m) :
    ReadsAs item.managedCleanup (callItems item.managedCalls) := by
  rw [managedCleanup, managedCalls]
  split_ifs
  · have hhook : words "DisposeManaged();" = ["DisposeManaged", "(", ")"] ++ [";"] := by decide
    exact ReadsAs.line 4 hhook (by decide)
  · -- one line for each member
    have hmember : ∀ m ∈ item.memberNames, ReadsAs [.code 4 (m ++ ".Dispose();")]
        [.simple [m, ".", "Dispose", "(", ")"]] := by
      intro m hm
      have hname := hmembers m hm
      have hcall : words ".Dispose();" = [".", "Dispose", "(", ")", ";"] := by decide
      refine ReadsAs.line 4 (by rw [words_append (by decide), hname.words_eq, hcall]; rfl) ?_
      exact List.forall_mem_cons.2 ⟨hname.isPlain, by decide⟩
    generalize item.memberNames = names at hmember
    induction names with
    | nil => exact ReadsAs.nil
    | cons m names ih =>
      exact (hmember m List.mem_cons_self).append
        (ih fun n hn => hmember n (List.mem_cons_of_mem _ hn))

theorem readsAs_private (hmembers : ∀ m ∈ item.memberNames, IsName m) :
    ReadsAs item.privateDispose
      [.block ["private", "void", "Dispose", "(", "bool", disposingParameter, ")"]
        item.privateItems] := by
  have hheader : words ("private void Dispose(bool " ++ disposingParameter ++ ")") =
      ["private", "void", "Dispose", "(", "bool", disposingParameter, ")"] := by decide
  have hdisposed : words ("if (" ++ disposedFlag ++ ")") = ["if", "(", disposedFlag, ")"] := by
    decide
  have hdisposing : words ("if (" ++ disposingParameter ++ ")") =
      ["if", "(", disposingParameter, ")"] := by decide
  have hreturn : words "return;" = ["return"] ++ [";"] := by decide
  have hassign : words (disposedFlag ++ " = true;") = [disposedFlag, "=", "true"] ++ [";"] := by
    decide
  have hhook : words "DisposeUnmanaged();" = ["DisposeUnmanaged", "(", ")"] ++ [";"] := by decide
  have hguard := ReadsAs.block 3 hdisposed (by decide) (ReadsAs.line 4 hreturn (by decide))
  have hmanaged := ReadsAs.block 3 hdisposing (by decide) (readsAs_managed hmembers)
  have hlast := (ReadsAs.line 3 hassign (by decide)).paragraph ReadsAs.noParagraphs
  refine ReadsAs.block 2 hheader (by decide) (hguard.paragraph (hmanaged.paragraph ?_))
  cases hu : item.unmanagedHook with
  | false => simpa [hu, unmanagedCalls, callItems] using hlast
  | true =>
    simpa [hu, unmanagedCalls, callItems] using (ReadsAs.line 3 hhook (by decide)).paragraph hlast

/-- The items of the body of the public method. -/
def publicItems (item : WorkItem) : List Item :=
  if item.hasWork then [.simple ["Dispose", "(", "true", ")"], .simple suppressFinalize] else []

theorem statements?_public (item : WorkItem) :
    Item.statements? item.publicItems = some item.publicMethod.body := by
  rw [publicItems, publicMethod]
  split_ifs <;> rfl

theorem readsAs_public (item : WorkItem) :
    ReadsAs item.publicDispose
      [.block ["public", "void", "Dispose", "(", ")"] item.publicItems] := by
  have hheader : words "public void Dispose()" = ["public", "void", "Dispose", "(", ")"] := by
    decide
  have hdispose : words "Dispose(true);" = ["Dispose", "(", "true", ")"] ++ [";"] := by decide
  have hsuppress : words "GC.SuppressFinalize(this);" = suppressFinalize ++ [";"] := by decide
  refine ReadsAs.block 2 hheader (by decide) ?_
  rw [publicItems]
  split_ifs
  · exact (ReadsAs.line 3 hdispose (by decide)).append (ReadsAs.line 3 hsuppress (by decide))
  · exact ReadsAs.nil

/-- The items of the body of the class. -/
def memberItems (item : WorkItem) : List Item :=
  (if item.hasWork then [.simple ["private", "bool", disposedFlag, "=", "false"]] else []) ++
    [.block ["public", "void", "Dispose", "(", ")"] item.publicItems] ++
    (if item.hasWork then
      [.block ["private", "void", "Dispose", "(", "bool", disposingParameter, ")"]
        item.privateItems] else []) ++
    (if item.unmanagedHook then
      [.simple ["~", item.className, "(", ")", "=", ">", "Dispose", "(", "false", ")"]] else [])

theorem readsAs_members (hclass : IsName item.className)
    (hmembers : ∀ m ∈ item.memberNames, IsName m) :
    ReadsAs (paragraphs item.members) item.memberItems := by
  have hflag : words ("private bool " ++ disposedFlag ++ " = false;") =
      ["private", "bool", disposedFlag, "=", "false"] ++ [";"] := by decide
  have hfield := ReadsAs.line 2 hflag (by decide)
  have hpublic := readsAs_public item
  have hprivate := readsAs_private hmembers
  have hfinalizer : ReadsAs [.code 2 ("~" ++ item.className ++ "() => Dispose(false);")]
      [.simple ["~", item.className, "(", ")", "=", ">", "Dispose", "(", "false", ")"]] := by
    have hbefore : words "~" = ["~"] := by decide
    have hbehind : words "() => Dispose(false);" =
        ["(", ")", "=", ">", "Dispose", "(", "false", ")", ";"] := by decide
    refine ReadsAs.line 2 ?_ (List.forall_mem_cons.2 ⟨by decide,
      List.forall_mem_cons.2 ⟨hclass.isPlain, by decide⟩⟩)
    rw [words_append (by decide), words_append_right (by decide), hclass.words_eq, hbefore, hbehind]
    rfl
  have hend := ReadsAs.noParagraphs
  rw [members, memberItems]
  -- which of the members are there
  cases hwork : item.hasWork <;> cases hu : item.unmanagedHook
  · simpa using hpublic.paragraph hend
  · simpa using hpublic.paragraph (hfinalizer.paragraph hend)
  · simpa using hfield.paragraph (hpublic.paragraph (hprivate.paragraph hend))
  · simpa using
      hfield.paragraph (hpublic.paragraph (hprivate.paragraph (hfinalizer.paragraph hend)))

theorem foldlM_memberItems (hmembers : ∀ m ∈ item.memberNames, IsName m) :
    item.memberItems.foldlM ClassCode.add? (ClassCode.empty item.className) = some item.code := by
  have hpublic := statements?_public item
  have hprivate := statements?_private hmembers
  rw [memberItems, code]
  cases hwork : item.hasWork <;> cases hu : item.unmanagedHook <;>
    simp [ClassCode.add?, ClassCode.addSimple?, ClassCode.addMethod?, ClassCode.empty, truth?,
      simpleStatement?, hpublic, hprivate, publicMethod, privateMethod]

theorem words_classHeader (hclass : IsName item.className) :
    words item.classHeader =
      words item.accessibility.text ++ ["partial", "class", item.className] := by
  rw [classHeader]
  generalize item.accessibility = a
  have hlast : ((if a.text = "" then "" else a.text ++ " ") ++
      "partial class ").toList.getLast?.all (!isNameChar ·) = true := by
    cases a <;> decide
  have hwords : words ((if a.text = "" then "" else a.text ++ " ") ++ "partial class ") =
      words a.text ++ ["partial", "class"] := by
    cases a <;> decide
  rw [words_append_right hlast, hwords, hclass.words_eq, List.append_assoc]
  rfl

theorem isPlain_accessibility (a : Accessibility) : ∀ w ∈ words a.text, IsPlain w := by
  cases a <;> decide

theorem readsAs_lines (hnamespace : IsDotted item.namespaceName) (hclass : IsName item.className)
    (hmembers : ∀ m ∈ item.memberNames, IsName m) :
    ReadsAs item.lines [.simple ["using", "System"],
      .block ("namespace" :: words item.namespaceName)
        [.block (words item.accessibility.text ++ ["partial", "class", item.className])
          item.memberItems]] := by
  have husing : words "using System;" = ["using", "System"] ++ [";"] := by decide
  have hkeyword : words "namespace " = ["namespace"] := by decide
  have hheader : words ("namespace " ++ item.namespaceName) =
      "namespace" :: words item.namespaceName := by
    rw [words_append_right (by decide), hkeyword]
    rfl
  have hplain : ∀ w ∈ ["partial", "class", item.className], IsPlain w :=
    List.forall_mem_cons.2 ⟨by decide, List.forall_mem_cons.2 ⟨by decide,
      List.forall_mem_singleton.2 hclass.isPlain⟩⟩
  have hclassBlock := ReadsAs.block 1 (words_classHeader hclass)
    (List.forall_mem_append.2 ⟨isPlain_accessibility _, hplain⟩) (readsAs_members hclass hmembers)
  have hnamespaceBlock := ReadsAs.block 0 hheader
    (List.forall_mem_cons.2 ⟨by decide, hnamespace.isPlain⟩) hclassBlock
  have hblank : ReadsAs [.blank] [] := Reads.nil
  exact ((ReadsAs.line 0 husing (by decide)).append hblank).append hnamespaceBlock

/-- **The generated text reads as the generated class.** -/
theorem read?_render (hnamespace : IsDotted item.namespaceName) (hclass : IsName item.className)
    (hmembers : ∀ m ∈ item.memberNames, IsName m) :
    ClassCode.read? item.render = some item.code := by
  have hitems := (readsAs_lines hnamespace hclass hmembers).items?_eq
  rw [← words_text] at hitems
  have hname : className? (words item.accessibility.text ++ ["partial", "class", item.className]) =
      some item.className := by
    simp [className?]
  rw [ClassCode.read?, render, hitems]
  simp only [hname, Option.bind_some]
  exact foldlM_memberItems hmembers

/-! ### Running it -/

/-- What a call from outside has to clean up: with `Dispose()` the managed resources, through
their hook or else member by member, and then the unmanaged ones; with the finalizer only
these. -/
def cleanup (item : WorkItem) : ClassCode.Entry → List String
  | .dispose =>
    (if item.managedHook then ["DisposeManaged()"]
      else item.memberNames.map fun m => m ++ ".Dispose()") ++
    if item.unmanagedHook then ["DisposeUnmanaged()"] else []
  | .finalizer => ["DisposeUnmanaged()"]

theorem join_managedCalls (item : WorkItem) : item.managedCalls.map String.join =
    if item.managedHook then ["DisposeManaged()"]
    else item.memberNames.map fun m => m ++ ".Dispose()" := by
  have hcall : String.join [".", "Dispose", "(", ")"] = ".Dispose()" := by decide
  rw [managedCalls]
  split_ifs
  · decide
  · rw [List.map_map]
    refine List.map_congr_left fun m _ => ?_
    rw [Function.comp_apply, String.join_cons, hcall]

theorem join_unmanagedCalls (item : WorkItem) : item.unmanagedCalls.map String.join =
    if item.unmanagedHook then ["DisposeUnmanaged()"] else [] := by
  rw [unmanagedCalls]
  split_ifs <;> decide

/-- A call that is not one of the class itself and not one to the runtime. -/
def IsForeign (code : ClassCode) (ws : List String) : Prop :=
  code.callee? ws = none ∧ ws ≠ suppressFinalize

theorem callee?_of_ne {code : ClassCode} {name : String} (h : ∀ m ∈ code.methods, m.name ≠ name) :
    code.callee? [name, "(", ")"] = none := by
  simp only [ClassCode.callee?, Option.map_eq_none_iff, List.find?_eq_none]
  intro m hm
  simp [h m hm]

theorem name_of_mem_methods {m : Method} (h : m ∈ item.code.methods) : m.name = "Dispose" := by
  have hcases : m ∈ item.publicMethod :: if item.hasWork then [item.privateMethod] else [] := h
  rcases List.mem_cons.1 hcases with rfl | hprivate
  · rfl
  · split_ifs at hprivate
    · rw [List.mem_singleton.1 hprivate]
      rfl
    · cases hprivate

theorem isForeign_hook (item : WorkItem) {name : String} (hname : name ≠ "Dispose") :
    IsForeign item.code [name, "(", ")"] := by
  refine ⟨callee?_of_ne fun m hm => ?_, by simp [suppressFinalize]⟩
  rw [name_of_mem_methods hm]
  exact Ne.symm hname

theorem isForeign_managed (item : WorkItem) :
    ∀ ws ∈ item.managedCalls, IsForeign item.code ws := by
  intro ws hws
  rw [managedCalls] at hws
  split_ifs at hws
  · rw [List.mem_singleton.1 hws]
    exact isForeign_hook item (by decide)
  · -- a member is called through a dot, which is no call of the class itself
    obtain ⟨m, -, rfl⟩ := List.mem_map.1 hws
    exact ⟨by simp [ClassCode.callee?], by simp [suppressFinalize]⟩

theorem isForeign_unmanaged (item : WorkItem) :
    ∀ ws ∈ item.unmanagedCalls, IsForeign item.code ws := by
  intro ws hws
  rw [unmanagedCalls] at hws
  split_ifs at hws
  · rw [List.mem_singleton.1 hws]
    exact isForeign_hook item (by decide)
  · cases hws

theorem invoke_foreign {code : ClassCode} {ws : List String} (h : IsForeign code ws) (depth : Nat)
    (flags : Flags) : code.invoke (depth + 1) ws flags = some (flags, [String.join ws]) := by
  rw [ClassCode.invoke, h.1]
  simp [h.2]

theorem execAll_foreign {code : ClassCode} {calls : List (List String)}
    (h : ∀ ws ∈ calls, IsForeign code ws) (depth : Nat) (parameter flags : Flags)
    (rest : List Statement) :
    Statement.execAll (code.invoke (depth + 1)) parameter (calls.map .call ++ rest) flags =
      (Statement.execAll (code.invoke (depth + 1)) parameter rest flags).map fun o =>
        { o with calls := calls.map String.join ++ o.calls } := by
  induction calls with
  | nil =>
    cases h : Statement.execAll (code.invoke (depth + 1)) parameter rest flags <;> simp [h]
  | cons ws calls ih =>
    have hfirst := invoke_foreign (h ws List.mem_cons_self) depth flags
    have hrest := ih fun vs hvs => h vs (List.mem_cons_of_mem _ hvs)
    rw [List.map_cons, List.cons_append, Statement.execAll, Statement.exec, hfirst]
    simp only [Option.map_some, Option.bind_some, Bool.false_eq_true, ↓reduceIte, hrest]
    cases Statement.execAll (code.invoke (depth + 1)) parameter rest flags <;> simp

/-- **One run of the method that cleans up**: it does nothing if the object is disposed, and else
it cleans up and notes that. -/
theorem execAll_privateBody (item : WorkItem) (depth : Nat) (disposing disposed : Bool) :
    Statement.execAll (item.code.invoke (depth + 1)) [(disposingParameter, disposing)]
      item.privateBody [(disposedFlag, disposed)] =
      some (if disposed then ⟨true, [(disposedFlag, true)], []⟩
        else ⟨false, [(disposedFlag, true)],
          (if disposing then item.managedCalls.map String.join else []) ++
            item.unmanagedCalls.map String.join⟩) := by
  have hmanaged := execAll_foreign (isForeign_managed item) depth
    [(disposingParameter, disposing)] [(disposedFlag, disposed)] []
  rw [List.append_nil] at hmanaged
  have hunmanaged := execAll_foreign (isForeign_unmanaged item) depth
    [(disposingParameter, disposing)] [(disposedFlag, disposed)] [.assign disposedFlag true]
  have hdisposed : [(disposingParameter, disposing), (disposedFlag, disposed)].lookup disposedFlag =
      some disposed := rfl
  rw [privateBody]
  cases disposed with
  | true => simp [Statement.execAll, Statement.exec, hdisposed]
  | false =>
    -- the parameter decides about the managed resources, and the rest runs in any case
    cases disposing with
    | true =>
      simp [Statement.execAll, Statement.exec, Flags.set?, hdisposed, hmanaged, hunmanaged]
    | false =>
      simp [Statement.execAll, Statement.exec, Flags.set?, hdisposed, hunmanaged]

theorem callee?_dispose (hwork : item.hasWork = true) {arg : String} {b : Bool}
    (harg : truth? arg = some b) : item.code.callee? ["Dispose", "(", arg, ")"] =
      some (item.privateMethod, [(disposingParameter, b)]) := by
  simp [ClassCode.callee?, harg, code, hwork, publicMethod, privateMethod]

theorem invoke_dispose (hwork : item.hasWork = true) (arg : String) {b : Bool}
    (harg : truth? arg = some b) (depth : Nat) (disposed : Bool) :
    item.code.invoke (depth + 2) ["Dispose", "(", arg, ")"] [(disposedFlag, disposed)] =
      some ([(disposedFlag, true)], if disposed then []
        else (if b then item.managedCalls.map String.join else []) ++
          item.unmanagedCalls.map String.join) := by
  rw [ClassCode.invoke, callee?_dispose hwork harg]
  simp only [privateMethod, execAll_privateBody]
  cases disposed <;> rfl

theorem invoke_suppressFinalize (item : WorkItem) (depth : Nat) (flags : Flags) :
    item.code.invoke (depth + 1) suppressFinalize flags = some (flags, []) := by
  rw [ClassCode.invoke]
  rfl

/-- The finalizer can be called if the class has one. -/
def Callable (item : WorkItem) (e : ClassCode.Entry) : Prop :=
  e = .finalizer → item.unmanagedHook = true

/-- **One call from outside** on an object with something to clean up does so once. -/
theorem execAll_entry (hwork : item.hasWork = true) {e : ClassCode.Entry} (he : item.Callable e)
    (depth : Nat) (disposed : Bool) :
    ∃ body, item.code.entry? e = some body ∧
      Statement.execAll (item.code.invoke (depth + 2)) [] body [(disposedFlag, disposed)] =
        some ⟨false, [(disposedFlag, true)], if disposed then [] else item.cleanup e⟩ := by
  cases e with
  | dispose =>
    have hdispose := invoke_dispose hwork "true" rfl depth disposed
    have hsuppress := invoke_suppressFinalize item (depth + 1) [(disposedFlag, true)]
    rw [join_managedCalls, join_unmanagedCalls] at hdispose
    refine ⟨item.publicMethod.body, by simp [ClassCode.entry?, code, publicMethod], ?_⟩
    simp [publicMethod, hwork, Statement.execAll, Statement.exec, hdispose, hsuppress, cleanup]
  | finalizer =>
    have hunmanaged := he rfl
    have hdispose := invoke_dispose hwork "false" rfl depth disposed
    rw [join_unmanagedCalls] at hdispose
    have hentry : item.code.entry? .finalizer = some [.call ["Dispose", "(", "false", ")"]] := by
      simp [ClassCode.entry?, code, hunmanaged]
    refine ⟨_, hentry, ?_⟩
    simp [Statement.execAll, Statement.exec, hdispose, hunmanaged, cleanup]

theorem runFrom_disposed (hwork : item.hasWork = true) (depth : Nat)
    {es : List ClassCode.Entry} (hes : ∀ e ∈ es, item.Callable e) :
    item.code.runFrom (depth + 2) [(disposedFlag, true)] es = some [] := by
  induction es with
  | nil => rfl
  | cons e es ih =>
    obtain ⟨body, hbody, hexec⟩ := execAll_entry hwork (hes e List.mem_cons_self) depth true
    rw [ClassCode.runFrom, hbody, Option.bind_some, hexec, Option.bind_some,
      ih fun d hd => hes d (List.mem_cons_of_mem _ hd)]
    rfl

theorem run_of_hasWork (hwork : item.hasWork = true) (depth : Nat) {e : ClassCode.Entry}
    {es : List ClassCode.Entry} (hes : ∀ d ∈ e :: es, item.Callable d) :
    item.code.run (depth + 2) (e :: es) = some (item.cleanup e) := by
  have hflags : item.code.flags = [(disposedFlag, false)] := by simp [code, hwork]
  obtain ⟨body, hbody, hexec⟩ := execAll_entry hwork (hes e List.mem_cons_self) depth false
  rw [ClassCode.run, hflags, ClassCode.runFrom, hbody, Option.bind_some, hexec, Option.bind_some,
    runFrom_disposed hwork depth fun d hd => hes d (List.mem_cons_of_mem _ hd)]
  simp

theorem runFrom_of_lacksWork (hwork : item.hasWork = false) (depth : Nat)
    {es : List ClassCode.Entry} (hes : ∀ e ∈ es, item.Callable e) :
    item.code.runFrom depth [] es = some [] := by
  obtain ⟨hunmanaged, -, -⟩ := hasWork_eq_false.1 hwork
  induction es with
  | nil => rfl
  | cons e es ih =>
    cases e with
    | finalizer =>
      have hcallable := hes .finalizer List.mem_cons_self rfl
      rw [hunmanaged] at hcallable
      cases hcallable
    | dispose =>
      have hbody : item.code.entry? .dispose = some [] := by
        simp [ClassCode.entry?, code, publicMethod, hwork]
      rw [ClassCode.runFrom, hbody, Option.bind_some, Statement.execAll, Option.bind_some,
        ih fun d hd => hes d (List.mem_cons_of_mem _ hd)]
      rfl

theorem run_of_lacksWork (hwork : item.hasWork = false) (depth : Nat) {e : ClassCode.Entry}
    {es : List ClassCode.Entry} (hes : ∀ d ∈ e :: es, item.Callable d) :
    item.code.run depth (e :: es) = some (item.cleanup e) := by
  obtain ⟨hunmanaged, hmanaged, hmembers⟩ := hasWork_eq_false.1 hwork
  have hflags : item.code.flags = [] := by simp [code, hwork]
  rw [ClassCode.run, hflags, runFrom_of_lacksWork hwork depth hes]
  cases e with
  | dispose => simp [cleanup, hunmanaged, hmanaged, hmembers]
  | finalizer =>
    have hcallable := hes .finalizer List.mem_cons_self rfl
    rw [hunmanaged] at hcallable
    cases hcallable

/-- **Any calls from outside** clean up what the first of them has to. -/
theorem run_code (item : WorkItem) (depth : Nat) {e : ClassCode.Entry}
    {es : List ClassCode.Entry} (hes : ∀ d ∈ e :: es, item.Callable d) :
    item.code.run (depth + 2) (e :: es) = some (item.cleanup e) := by
  cases hwork : item.hasWork with
  | true => exact run_of_hasWork hwork depth hes
  | false => exact run_of_lacksWork hwork (depth + 2) hes

end WorkItem

open Program

/-- **Generated code disposes exactly once.**  The text generated for a work item with proper
names reads as a class.  It has a finalizer if there is an unmanaged hook, and it has neither a
flag nor a body in `Dispose()` if there is nothing to clean up.  Whatever calls of `Dispose()` and
of the finalizer come from outside, on a new object they make the calls that the first of them
makes alone, and these clean up what that call has to. -/
theorem render_disposes_once (item : WorkItem) (hnamespace : IsDotted item.namespaceName)
    (hclass : IsName item.className) (hmembers : ∀ m ∈ item.memberNames, IsName m) :
    ∃ code, ClassCode.read? item.render = some code ∧
      (code.finalizer.isSome = true ↔ item.unmanagedHook = true) ∧
      code.flags = (if item.hasWork then [("_isDisposed", false)] else []) ∧
      (item.hasWork = false → code.methods = [⟨"public", "Dispose", none, []⟩]) ∧
      ∀ depth e es, (.finalizer ∈ e :: es → code.finalizer.isSome = true) →
        code.run (depth + 2) (e :: es) = code.run (depth + 2) [e] ∧
        code.run (depth + 2) (e :: es) = some (item.cleanup e) := by
  have hfinalizer : item.code.finalizer.isSome = true ↔ item.unmanagedHook = true := by
    cases hu : item.unmanagedHook <;> simp [WorkItem.code, hu]
  refine ⟨item.code, item.read?_render hnamespace hclass hmembers, hfinalizer, rfl, ?_, ?_⟩
  · intro hwork
    simp [WorkItem.code, WorkItem.publicMethod, hwork]
  · intro depth e es hcalls
    have hes : ∀ d ∈ e :: es, item.Callable d := by
      rintro d hd rfl
      exact hfinalizer.1 (hcalls hd)
    have hfirst : ∀ d ∈ [e], item.Callable d := by
      intro d hd
      exact hes d (List.mem_singleton.1 hd ▸ List.mem_cons_self)
    rw [item.run_code depth hes, item.run_code depth hfirst]
    exact ⟨rfl, rfl⟩

/-- A work item with two members, one of them twice, and an unmanaged hook. -/
def sampleItem : WorkItem where
  namespaceName := "N.M"
  className := "C"
  memberNames := ["a", "b", "a"]
  unmanagedHook := true

theorem render_disposes_once_sampleItem :
    ∃ code, ClassCode.read? sampleItem.render = some code ∧
      code.run 2 [.dispose, .finalizer, .dispose] =
        some ["a.Dispose()", "b.Dispose()", "a.Dispose()", "DisposeUnmanaged()"] := by
  have hnamespace : IsDotted ("N" ++ "." ++ "M") := .dot (by decide) (.name (by decide))
  obtain ⟨code, hread, hfinalizer, -, -, hrun⟩ :=
    render_disposes_once sampleItem hnamespace (by decide) (by decide)
  exact ⟨code, hread, (hrun 0 .dispose _ fun _ => hfinalizer.2 rfl).2⟩

end Disposal
