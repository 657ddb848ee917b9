import Disposal.Artifact
import Disposal.Proofs.Generation

/-!
# Generated sources as files

What a parser has to give for a generated source, and what such a file adds when it is analysed
together with others: one more declaration of its type, without bases, that declares
`void Dispose()`.

* `WorkItem.isGeneratedUnit` is the outline of the tree of a generated source, and
  `Parser.ReadsBack` says that a parser gives such a tree;
* `Fragment` is what a generated file adds;
* `WorkItem.fragment_ofBytes`: a generated source that is read back adds that and nothing else.
-/

namespace Disposal

open Declaration

/-! ### Outlines -/

namespace Node

/-- Whether a declaration has the given name. -/
def isNamed (source : Text.Bytes) (name : String) (n : Node) : Bool :=
  (n.childInField? "name").any fun c => c.name source == name

/-- Whether a node is a brace. -/
def isBrace (n : Node) : Bool := n.kind == "\x7b" || n.kind == "\x7d"

/-- Whether a node declares a method without type parameters that returns nothing. -/
def isVoidMethod (source : Text.Bytes) (name : String) (parameterCount : Nat) (n : Node) : Bool :=
  n.kind == "method_declaration" && n.isNamed source name &&
    ((n.childInField? "returns").orElse fun _ => n.childInField? "type").any
      (fun c => c.name source == "void") &&
    (n.childInField? "parameters").any (fun c => c.namedChildren.length == parameterCount) &&
    (n.childInField? "type_parameters").isNone && (n.childOfKind? "type_parameter_list").isNone

end Node

namespace WorkItem

/-- The tests for the members of the generated class, in their order: the field, the two methods
and the finalizer. -/
def memberTests (item : WorkItem) (source : Text.Bytes) : List (Node → Bool) :=
  (if item.hasWork then [fun n => n.kind == "field_declaration"] else []) ++
    [Node.isVoidMethod source disposeMethod 0] ++
    (if item.hasWork then [Node.isVoidMethod source disposeMethod 1] else []) ++
    (if item.unmanagedHook then [fun n => n.kind == "destructor_declaration"] else [])

/-- Whether nodes pass tests one by one. -/
def passAll : List (Node → Bool) → List Node → Bool
  | [], [] => true
  | test :: tests, n :: ns => test n && passAll tests ns
  | _, _ => false

/-- Whether a node is the generated class: its header, no base list, and its members. -/
def isGeneratedClass (item : WorkItem) (source : Text.Bytes) (n : Node) : Bool :=
  n.kind == "class_declaration" && n.isNamed source item.className &&
    " ".intercalate (n.modifiers source ++ ["class", item.className]) == item.classHeader &&
    (n.childOfKind? "base_list").isNone && passAll (item.memberTests source) n.memberNodes

/-- Whether a node is the namespace around the generated class and nothing else. -/
def isGeneratedNamespace (item : WorkItem) (source : Text.Bytes) (n : Node) : Bool :=
  n.kind == "namespace_declaration" && n.isNamed source item.namespaceName &&
    n.body?.any fun body =>
      match body.children.filter fun c => !c.isBrace with
      | [only] => item.isGeneratedClass source only
      | _ => false

/-- Whether a tree has the outline of the source generated for a work item: a using directive
and the namespace, and no other class than the one in it. -/
def isGeneratedUnit (item : WorkItem) (source : Text.Bytes) (root : Node) : Bool :=
  root.kind == "compilation_unit" && root.preorder.countP Node.isClass == 1 &&
    match root.children with
    | [directive, body] =>
      directive.kind == "using_directive" && directive.text source == "using System;" &&
        item.isGeneratedNamespace source body
    | _ => false

end WorkItem

/-- A parser gives a tree of the right outline for the source generated for a work item. -/
def Parser.ReadsBack (parse : Parser) (item : WorkItem) : Prop :=
  item.isGeneratedUnit (Text.encode item.render) (parse (Text.encode item.render)) = true

/-- A file adds one more declaration to the type named `q`: it has no bases and declares
`void Dispose()`.  Nothing in the file holds in other files, and no filter accepts any node. -/
structure Fragment (f : SourceFile) (q : String) : Prop where
  declares : ∃ d, f.typeDecls = [d] ∧ d.qualifiedName = q ∧ d.bases = [] ∧
    ∃ m ∈ d.members f, m.IsParameterlessVoid disposeMethod
  usings : Model.globalUsings f.declarations = []
  rejected : ∀ n ∈ f.root.preorder, ∀ filter : Filter, filter.accepts f.source n = false

/-! ### What stands between the braces -/

/-- Braces declare nothing and leave the scope as it is. -/
theorem role_of_isBrace {source : Text.Bytes} {n : Node} (h : n.isBrace = true) :
    role source n = .other := by
  rcases Bool.or_eq_true_iff.1 h with hkind | hkind
  · simp [role, Node.typeKind?, beq_iff_eq.1 hkind]
  · simp [role, Node.typeKind?, beq_iff_eq.1 hkind]

theorem ofSiblings_filter_braces {f : SourceFile} (scope : Scope) (cs : List Node) :
    ofSiblings f scope (cs.filter fun c => !c.isBrace) = ofSiblings f scope cs :=
  ofSiblings_filter (fun _ hc => role_of_isBrace (by simpa using hc)) scope cs

/-! ### The members of the generated class -/

namespace WorkItem

theorem exists_of_passAll {tests : List (Node → Bool)} {ns : List Node}
    (h : passAll tests ns = true) :
    (∀ test ∈ tests, ∃ n ∈ ns, test n = true) ∧ ∀ n ∈ ns, ∃ test ∈ tests, test n = true := by
  fun_induction passAll tests ns with
  | case1 => simp
  | case2 test tests n ns ih =>
    obtain ⟨hn, hrest⟩ := Bool.and_eq_true_iff.1 h
    obtain ⟨hforth, hback⟩ := ih hrest
    refine ⟨fun t ht => ?_, fun m hm => ?_⟩
    · rcases List.mem_cons.1 ht with rfl | ht
      · exact ⟨n, List.mem_cons_self, hn⟩
      · obtain ⟨m, hm, hpass⟩ := hforth t ht
        exact ⟨m, List.mem_cons_of_mem _ hm, hpass⟩
    · rcases List.mem_cons.1 hm with rfl | hm
      · exact ⟨test, List.mem_cons_self, hn⟩
      · obtain ⟨t, ht, hpass⟩ := hback m hm
        exact ⟨t, List.mem_cons_of_mem _ ht, hpass⟩
  | case3 => cases h

theorem mem_memberTests (item : WorkItem) (source : Text.Bytes) :
    Node.isVoidMethod source disposeMethod 0 ∈ item.memberTests source := by
  simp [memberTests]

theorem kind_of_isVoidMethod {source : Text.Bytes} {name : String} {count : Nat} {n : Node}
    (h : n.isVoidMethod source name count = true) : n.kind = "method_declaration" := by
  simp only [Node.isVoidMethod, Bool.and_eq_true, beq_iff_eq] at h
  exact h.1.1.1.1.1

theorem typeKind?_of_memberTests {item : WorkItem} {source : Text.Bytes} {test : Node → Bool}
    (h : test ∈ item.memberTests source) {n : Node} (hn : test n = true) :
    n.typeKind? = none := by
  simp only [memberTests, List.mem_append, List.mem_ite_nil_right, List.mem_singleton] at h
  rcases h with ((⟨-, rfl⟩ | rfl) | ⟨-, rfl⟩) | ⟨-, rfl⟩
  · simp [Node.typeKind?, beq_iff_eq.1 hn]
  · simp [Node.typeKind?, kind_of_isVoidMethod hn]
  · simp [Node.typeKind?, kind_of_isVoidMethod hn]
  · simp [Node.typeKind?, beq_iff_eq.1 hn]

theorem isParameterlessVoid_of_isVoidMethod {f : SourceFile} {name : String} {n : Node}
    (h : n.isVoidMethod f.source name 0 = true) :
    ∃ m ∈ MemberDecl.ofNode f n, m.IsParameterlessVoid name := by
  simp only [Node.isVoidMethod, Node.isNamed, Bool.and_eq_true, beq_iff_eq, Option.any_eq_true,
    Option.isNone_iff_eq_none, List.length_eq_zero_iff, Option.orElse_eq_or] at h
  obtain ⟨⟨⟨⟨⟨hkind, nameNode, hname, hnamed⟩, returned, hreturned, hvoid⟩,
    parameters, hparameters, hempty⟩, hfield⟩, hlist⟩ := h
  refine MemberDecl.exists_isParameterlessVoid_iff.2 ⟨hkind, ⟨nameNode, hname, hnamed⟩,
    ⟨returned, hreturned, hvoid⟩, ?_, ?_⟩
  · intro p hp c hc
    rw [hparameters, Option.some_or, Option.some.injEq] at hp
    rw [← hp, hempty] at hc
    cases hc
  · intro p hp
    rw [hfield, hlist] at hp
    cases hp

/-! ### The declarations of a generated file -/

variable {item : WorkItem} {f : SourceFile}

theorem isClass_of_isGeneratedClass {source : Text.Bytes} {n : Node}
    (h : item.isGeneratedClass source n = true) : n.isClass = true := by
  simp only [isGeneratedClass, Bool.and_eq_true] at h
  exact h.1.1.1.1

theorem baseEntries_of_isGeneratedClass {source : Text.Bytes} {n : Node}
    (h : item.isGeneratedClass source n = true) : n.baseEntries source = [] := by
  simp only [isGeneratedClass, Bool.and_eq_true, Option.isNone_iff_eq_none] at h
  rw [Node.baseEntries, h.1.2]

theorem ofType_of_isGeneratedClass {n : Node} (h : item.isGeneratedClass f.source n = true)
    (scope : Scope) :
    ∃ d, ofType f scope none .classType n =
        .type d :: (d.members f).map (.member d.qualifiedName d.scope) ∧
      d.qualifiedName = joinName scope.namespaceName item.className ∧ d.bases = [] ∧
      ∃ m ∈ d.members f, m.IsParameterlessVoid disposeMethod := by
  have hbases : n.baseEntries f.source = [] := baseEntries_of_isGeneratedClass h
  simp only [isGeneratedClass, Node.isNamed, Bool.and_eq_true, Option.any_eq_true, beq_iff_eq] at h
  obtain ⟨⟨⟨⟨-, nameNode, hname, hnamed⟩, -⟩, -⟩, hpass⟩ := h
  obtain ⟨hforth, hback⟩ := exists_of_passAll hpass
  have hplain : ∀ c ∈ n.memberNodes, c.typeKind? = none := by
    intro c hc
    obtain ⟨test, htest, hc⟩ := hback c hc
    exact typeKind?_of_memberTests htest hc
  obtain ⟨d, hd, heq⟩ := ofType_named f scope none .classType hname
  have hmembers : d.members f = n.memberNodes.flatMap (MemberDecl.ofNode f) := by
    rw [hd, TypeDecl.members, TypeDecl.ofNode, List.filter_eq_self.2]
    intro c hc
    rw [hplain c hc]
    rfl
  refine ⟨d, ?_, ?_, ?_, ?_⟩
  · rw [heq, hmembers, List.map_flatMap]
    congr 1
    refine List.flatMap_congr fun c hc => ?_
    rw [ofMember, hplain c hc]
  · rw [hd, ← hnamed]
    rfl
  · rw [hd]
    exact hbases
  · obtain ⟨c, hc, hvoid⟩ := hforth _ (item.mem_memberTests f.source)
    obtain ⟨m, hm, hparameterless⟩ := isParameterlessVoid_of_isVoidMethod hvoid
    rw [hmembers]
    exact ⟨m, List.mem_flatMap.2 ⟨c, hc, hm⟩, hparameterless⟩

theorem ofNode_of_isGeneratedNamespace {n : Node}
    (h : item.isGeneratedNamespace f.source n = true) (scope : Scope) :
    ∃ only ∈ n.descendants, item.isGeneratedClass f.source only = true ∧
      ofNode f scope n = ofType f (enter scope item.namespaceName) none .classType only := by
  simp only [isGeneratedNamespace, Node.isNamed, Bool.and_eq_true, Option.any_eq_true,
    beq_iff_eq] at h
  obtain ⟨⟨hkind, nameNode, hname, hnamed⟩, body, hbody, hclass⟩ := h
  split at hclass
  · rename_i only hchildren
    have hchild : only ∈ body.children :=
      (List.mem_filter.1 (hchildren ▸ List.mem_singleton_self only)).1
    have hbelow : only ∈ n.descendants := by
      refine (Node.preorder_sublist_descendants (List.mem_of_find?_eq_some hbody)).subset ?_
      rw [Node.preorder_eq]
      exact List.mem_cons_of_mem _
        ((Node.preorder_sublist_descendants hchild).subset only.self_mem_preorder)
    have hrole : role f.source n = .namespaceBlock item.namespaceName := by
      simp [role, hkind, hname, hnamed]
    have honly : role f.source only = .type .classType := by
      simp [role, Node.typeKind?, beq_iff_eq.1 (isClass_of_isGeneratedClass hclass)]
    refine ⟨only, hbelow, hclass, ?_⟩
    rw [ofNode_eq, hrole]
    simp only [hbody]
    rw [← ofSiblings_filter_braces, hchildren, ofSiblings, ofNode_eq, honly, ofSiblings,
      List.append_nil]
  · cases hclass

theorem accepts_eq_false {source : Text.Bytes} {n : Node} (h : n.baseEntries source = [])
    (filter : Filter) : filter.accepts source n = false := by
  cases filter with
  | loose => simp [Filter.accepts, h]
  | strict interfaceName => simp [Filter.accepts, h]

theorem rejected {source : Text.Bytes} {root only : Node}
    (hcount : root.preorder.countP Node.isClass = 1) (honly : only ∈ root.preorder)
    (hclass : item.isGeneratedClass source only = true) :
    ∀ n ∈ root.preorder, ∀ filter : Filter, filter.accepts source n = false := by
  intro n hn filter
  rw [List.countP_eq_length_filter, List.length_eq_one_iff] at hcount
  obtain ⟨c, hc⟩ := hcount
  -- all classes are the same node
  have heq : ∀ m ∈ root.preorder, m.isClass = true → m = c := by
    intro m hm hclass
    exact List.mem_singleton.1 (hc ▸ List.mem_filter.2 ⟨hm, hclass⟩)
  by_cases hn' : n.isClass = true
  · rw [heq n hn hn', ← heq only honly (isClass_of_isGeneratedClass hclass)]
    exact accepts_eq_false (baseEntries_of_isGeneratedClass hclass) filter
  · simp [Filter.accepts, hn']

theorem ofText_usingSystem : Using.ofText "using System;" = ⟨some "System", false⟩ := by
  decide +kernel

/-- **A generated file adds one declaration to its type** and nothing else. -/
theorem fragment (h : item.isGeneratedUnit f.source f.root = true)
    (hspace : item.namespaceName ≠ "") : Fragment f item.qualifiedName := by
  simp only [isGeneratedUnit, Bool.and_eq_true, beq_iff_eq] at h
  obtain ⟨⟨-, hcount⟩, h⟩ := h
  split at h
  · rename_i directive body hchildren
    simp only [Bool.and_eq_true, beq_iff_eq] at h
    obtain ⟨⟨hkind, htext⟩, hbody⟩ := h
    have hrole : role f.source directive = .usingDirective ⟨some "System", false⟩ := by
      simp [role, hkind, htext, ofText_usingSystem]
    obtain ⟨only, hbelow, hclass, heq⟩ :=
      ofNode_of_isGeneratedNamespace hbody (addUsing {} ⟨some "System", false⟩)
    obtain ⟨d, htype, hname, hbases, hvoid⟩ := ofType_of_isGeneratedClass hclass
      (enter (addUsing {} ⟨some "System", false⟩) item.namespaceName)
    have hqualified : d.qualifiedName = item.qualifiedName := by
      rw [hname]
      simp [enter, addUsing, joinName, qualifiedName, hspace]
    have hdeclarations : f.declarations =
        .type d :: (d.members f).map (.member item.qualifiedName d.scope) := by
      rw [SourceFile.declarations, hchildren, ofSiblings, ofNode_eq, scopeBehind, hrole, ofSiblings,
        heq, htype, hqualified, ofSiblings, List.append_nil]
      rfl
    have htypes : f.typeDecls = [d] := by
      rw [SourceFile.typeDecls, hdeclarations, typesIn_cons_type, typesIn_members]
    have husings : Model.globalUsings f.declarations = [] := by
      simp [hdeclarations, Model.globalUsings]
    have honly : only ∈ f.root.preorder := by
      have hspace : body ∈ f.root.children := by simp [hchildren]
      rw [Node.preorder_eq]
      refine List.mem_cons_of_mem _ ((Node.preorder_sublist_descendants hspace).subset ?_)
      rw [Node.preorder_eq]
      exact List.mem_cons_of_mem _ hbelow
    exact ⟨⟨d, htypes, hqualified, hbases, hvoid⟩, husings, rejected hcount honly hclass⟩
  · cases h

theorem render_eq (item : WorkItem) :
    item.render = "using System;\n" ++ Artifact.text (item.lines.drop 1) := by
  have hline : (Artifact.Line.code 0 "using System;").toString ++ "\n" = "using System;\n" := rfl
  rw [render, lines, List.cons_append, Artifact.text_cons, hline]
  rfl

theorem stripMark_render (item : WorkItem) :
    Text.stripMark (Text.encode item.render) = Text.encode item.render := by
  rw [item.render_eq, Text.encode, String.toList_append, List.flatMap_append]
  rfl

/-- The file that a parser makes of a generated source adds one declaration to its type. -/
theorem fragment_ofBytes {parse : Parser} (h : parse.ReadsBack item)
    (hspace : item.namespaceName ≠ "") (path : Path) :
    Fragment (.ofBytes parse path (Text.encode item.render)) item.qualifiedName := by
  refine fragment ?_ hspace
  unfold Parser.ReadsBack at h
  simp only [SourceFile.ofBytes, stripMark_render]
  exact h

end WorkItem

end Disposal
