import Disposal.Proofs.Generation
import Disposal.Proofs.Lockstep

/-!
# The forms of a namespace

A namespace appears in three forms: as a node with a body, as a node around its declarations, and
as a node before them.  Which one it is depends on the source and on the version of the grammar, and
does not matter: the model of some files is the same, whatever form the namespace of one of them
has.

Trees are compared by what is seen of them.  The view of a tree has the labels, texts and positions
of all nodes but those that nothing is read of, such as keywords and punctuation.

* `Node.view` is what is seen of a tree, and `Node.viewAll_insert_token` says that tokens can be
  added anywhere;
* `Alike` are nodes with the same view;
* `Alike.lockstep`: walks over nodes with the same view record the same declarations, which are
  compared by `Declaration.bare`;
* `Model.ofDeclarations_bare`: the model of some declarations does not see more of them;
* `NamespaceForm` are the forms, `NamespaceForm.ofSiblings_eq` is what the walk does in all of them;
* `namespaceForm_irrelevant`: the model does not depend on the form.
-/

namespace Disposal

open Declaration Reader

/-! ### Views -/

/-- What is seen of a single node. -/
structure Node.Mark where
  label : Node.Label
  text : String
  /-- Line and column of the start, counted from 0. -/
  point : Nat × Nat
  deriving DecidableEq, Repr, Inhabited

/-- A syntax tree with the texts and positions of its nodes. -/
inductive View where
  | mk (mark : Node.Mark) (children : List View)
  deriving Repr, Inhabited

/-- What is seen of the root. -/
def View.mark : View → Node.Mark
  | .mk m _ => m

mutual
/-- Equality of views is decided from the root down. -/
def View.decEq : (a b : View) → Decidable (a = b)
  | .mk mark vs, .mk mark' vs' =>
    letI := View.decEqAll vs vs'
    decidable_of_iff (mark = mark' ∧ vs = vs') (by simp)

/-- Equality of lists of views. -/
def View.decEqAll : (as bs : List View) → Decidable (as = bs)
  | [], [] => isTrue rfl
  | [], _ :: _ => isFalse (by simp)
  | _ :: _, [] => isFalse (by simp)
  | a :: as, b :: bs =>
    letI := View.decEq a b
    letI := View.decEqAll as bs
    decidable_of_iff (a = b ∧ as = bs) (by simp)
end

instance : DecidableEq View := View.decEq

namespace Node

instance (n : Node) : Decidable n.IsIgnored :=
  decidable_of_iff
    (n.kind ∉ readKinds ∧ n.label.field ∉ readFields.map some ∧ n.isBaseEntry = false)
    ⟨fun ⟨hk, hf, he⟩ => ⟨hk, hf, he⟩, fun h => ⟨h.kind, h.field, h.entry⟩⟩

/-- What is seen of a node besides its children. -/
def mark (source : Text.Bytes) (n : Node) : Mark := ⟨n.label, n.text source, n.point source⟩

mutual
/-- What is seen of a tree. -/
def view (source : Text.Bytes) : Node → View
  | .mk l cs => .mk ((Node.mk l cs).mark source) (viewAll source cs)

/-- What is seen of some trees: nothing of those that are ignored. -/
def viewAll (source : Text.Bytes) : List Node → List View
  | [] => []
  | c :: cs => if c.IsIgnored then viewAll source cs else c.view source :: viewAll source cs
end

/-- Whether something may be read of a node. -/
def isSeen (n : Node) : Bool := !decide n.IsIgnored

theorem isIgnored_of_not_isSeen {n : Node} (h : n.isSeen = false) : n.IsIgnored := by
  simpa [isSeen] using h

theorem viewAll_eq (source : Text.Bytes) (cs : List Node) :
    viewAll source cs = (cs.filter isSeen).map (view source) := by
  induction cs with
  | nil => rw [viewAll]; rfl
  | cons c cs ih =>
    rw [viewAll, ih]
    by_cases hc : c.IsIgnored <;> simp [hc, isSeen]

/-- **Tokens are not seen**, if neither their kind nor their field is looked for: they can be added
anywhere. -/
theorem viewAll_insert_token {t : Node} (hnamed : t.label.named = false)
    (hkind : t.kind ∉ readKinds) (hfield : t.label.field ∉ readFields.map some)
    (source : Text.Bytes) (as bs : List Node) :
    viewAll source (as ++ t :: bs) = viewAll source (as ++ bs) := by
  have hignored : t.IsIgnored := ⟨hkind, hfield, by rw [isBaseEntry, hnamed]; rfl⟩
  simp [viewAll_eq, isSeen, hignored]

theorem view_eq (source : Text.Bytes) (n : Node) :
    n.view source = .mk (n.mark source) (viewAll source n.children) := by
  obtain ⟨l, cs⟩ := n
  rw [view]
  rfl

section

variable {source : Text.Bytes} {cs : List Node}

theorem viewAll_eq_append {vs ws : List View} (h : viewAll source cs = vs ++ ws) :
    ∃ as bs, cs.filter isSeen = as ++ bs ∧ viewAll source as = vs ∧ viewAll source bs = ws := by
  rw [viewAll_eq, List.map_eq_append_iff] at h
  obtain ⟨as, bs, hsplit, has, hbs⟩ := h
  have hseen : ∀ c ∈ as ++ bs, c.isSeen = true := fun c hc =>
    (List.mem_filter.1 (hsplit ▸ hc)).2
  refine ⟨as, bs, hsplit, ?_, ?_⟩
  · rw [viewAll_eq, List.filter_eq_self.2 fun c hc => hseen c (List.mem_append_left _ hc), has]
  · rw [viewAll_eq, List.filter_eq_self.2 fun c hc => hseen c (List.mem_append_right _ hc), hbs]

theorem viewAll_eq_cons {v : View} {vs : List View} (h : viewAll source cs = v :: vs) :
    ∃ c ds, cs.filter isSeen = c :: ds ∧ c.view source = v ∧ viewAll source ds = vs := by
  have happend : viewAll source cs = [v] ++ vs := h
  obtain ⟨as, ds, hsplit, has, hds⟩ := viewAll_eq_append happend
  have hseen : as.filter isSeen = as := List.filter_eq_self.2 fun c hc =>
    (List.mem_filter.1 (hsplit ▸ List.mem_append_left ds hc)).2
  rw [viewAll_eq, hseen, List.map_eq_singleton_iff] at has
  obtain ⟨c, rfl, hc⟩ := has
  exact ⟨c, ds, hsplit, hc, hds⟩

theorem viewAll_eq_nil (h : viewAll source cs = []) : cs.filter isSeen = [] := by
  rwa [viewAll_eq, List.map_eq_nil_iff] at h

end

end Node

/-- What is seen of the siblings at the root of a file. -/
def SourceFile.views (f : SourceFile) : List View := Node.viewAll f.source f.root.children

/-! ### Nodes with the same view -/

/-- The same is seen of two nodes in two sources. -/
def Alike (source source' : Text.Bytes) (n n' : Node) : Prop := n.view source = n'.view source'

/-- Trees of which the same is seen are alike one by one, apart from those that are ignored. -/
theorem alike_of_viewAll_eq {source source' : Text.Bytes} {cs cs' : List Node}
    (h : Node.viewAll source cs = Node.viewAll source' cs') :
    List.Forall₂ (Alike source source') (cs.filter Node.isSeen) (cs'.filter Node.isSeen) := by
  rwa [Node.viewAll_eq, Node.viewAll_eq, map_eq_map_iff_forall₂] at h

namespace Alike

variable {source source' : Text.Bytes} {n n' : Node}

theorem mark_eq (h : Alike source source' n n') : n.mark source = n'.mark source' := by
  rw [Alike, Node.view_eq, Node.view_eq] at h
  injection h

theorem label_eq (h : Alike source source' n n') : n.label = n'.label :=
  congrArg Node.Mark.label h.mark_eq

theorem kind_eq (h : Alike source source' n n') : n.kind = n'.kind :=
  congrArg Node.Label.kind h.label_eq

theorem text_eq (h : Alike source source' n n') : n.text source = n'.text source' :=
  congrArg Node.Mark.text h.mark_eq

theorem name_eq (h : Alike source source' n n') : n.name source = n'.name source' :=
  congrArg Text.compact h.text_eq

theorem children (h : Alike source source' n n') : List.Forall₂ (Alike source source')
    (n.children.filter Node.isSeen) (n'.children.filter Node.isSeen) := by
  rw [Alike, Node.view_eq, Node.view_eq] at h
  injection h with _ hviews
  exact alike_of_viewAll_eq hviews

theorem find? (h : Alike source source' n n') {t : Node.Label → Bool}
    (ht : ∀ c : Node, c.IsIgnored → t c.label = false) :
    Option.Rel (Alike source source') (n.children.find? fun c => t c.label)
      (n'.children.find? fun c => t c.label) := by
  rw [← find?_kept fun c hc => ht c (Node.isIgnored_of_not_isSeen hc),
    ← find?_kept (fun c hc => ht c (Node.isIgnored_of_not_isSeen hc)) n'.children]
  exact find?_forall₂ h.children fun a b hab => by rw [hab.label_eq]

/-- **Nodes of which the same is seen are read alike.** -/
theorem correspondence :
    Correspondence source source' Node.isSeen fun _ => Alike source source' where
  ignored _ hc := Node.isIgnored_of_not_isSeen hc
  kind_eq := kind_eq
  field_eq h := congrArg Node.Label.field h.label_eq
  named_eq h := congrArg Node.Label.named h.label_eq
  children := children
  text_eq h _ := h.text_eq
  trim_eq h _ := congrArg Text.trim h.text_eq
  name_eq h _ := h.name_eq
  declared_eq {_ n n'} h _ := by
    have hname := h.find? (t := fun l => l.field == some "name") fun c hc =>
      hc.field_beq (by decide)
    have hidentifier := h.find? (t := fun l => l.kind == "identifier") fun c hc =>
      hc.kind_beq (by decide)
    exact map_eq_of_rel (orElse_rel hname hidentifier) fun _ _ _ hc => hc.name_eq

end Alike

/-! ### Declarations of nodes with the same view -/

namespace MemberDecl

variable {f f' : SourceFile} {n n' : Node}

/-- Members at the same place that are the same without their places are the same. -/
theorem ofNode_eq_of_unlocated (hplace : f.locate n = f'.locate n')
    (h : (ofNode f n).map unlocated = (ofNode f' n').map unlocated) :
    ofNode f n = ofNode f' n' := by
  have hrelocate : ∀ (f : SourceFile) (n : Node), ofNode f n =
      ((ofNode f n).map unlocated).map fun m => { m with location := some (f.locate n) } := by
    intro f n
    rw [List.map_map]
    refine ((List.map_congr_left fun m hm => ?_).trans (List.map_id _)).symm
    rw [Function.comp_apply, ← (exists_name_of_mem hm).1]
    rfl
  rw [hrelocate f n, hrelocate f' n', h, hplace]

end MemberDecl

/-- The declaration with a leaf in place of its node. -/
def TypeDecl.bare (d : TypeDecl) : TypeDecl := { d with node := .mk d.node.label [] }

namespace Declaration

/-- The declaration with a leaf in place of the node of a type. -/
def bare : Declaration → Declaration
  | .type d => .type d.bare
  | d => d

end Declaration

namespace Alike

variable {f f' : SourceFile} {n n' : Node}

theorem locate_eq (hpath : f.path = f'.path) (h : Alike f.source f'.source n n') :
    f.locate n = f'.locate n' := by
  have hpoint : n.point f.source = n'.point f'.source := congrArg Node.Mark.point h.mark_eq
  simp only [SourceFile.locate, SourceFile.lineColumn, hpoint, h.text_eq, hpath]

/-- **What the walks record at nodes with the same view** differs in the nodes of types at most. -/
theorem lockstep (hpath : f.path = f'.path) : Lockstep f f' Node.isSeen
    (fun _ => Alike f.source f'.source) fun d d' => d.bare = d'.bare where
  toCorrespondence := correspondence
  type h _ _ scope outer name := by
    simp only [bare, TypeDecl.bare, TypeDecl.ofNode, correspondence.modifiers_eq (p := "") h,
      correspondence.baseEntries_eq (p := "") h, h.locate_eq hpath, h.label_eq]
  members h owner scope := by
    rw [MemberDecl.ofNode_eq_of_unlocated (h.locate_eq hpath)
      (correspondence.ofNode_eq (p := "") h)]
    exact List.forall₂_same.2 fun _ _ => rfl
  globalUsing _ := rfl
  unnamed _ := rfl

end Alike

/-! ### What a model sees of declarations -/

namespace Model

theorem globalUsings_bare (ds : List Declaration) :
    globalUsings (ds.map Declaration.bare) = globalUsings ds := by
  rw [globalUsings, List.filterMap_map]
  refine List.filterMap_congr fun d _ => ?_
  cases d <;> rfl

theorem bindingsOf_bare (ds : List Declaration) :
    bindingsOf (ds.map Declaration.bare) = bindingsOf ds := by
  rw [bindingsOf, List.filterMap_map]
  refine congrArg List.reverse (List.filterMap_congr fun d _ => ?_)
  cases d <;> rfl

theorem table_ofDeclarations_bare (ds : List Declaration) :
    Draft.Table.ofDeclarations (ds.map Declaration.bare) = Draft.Table.ofDeclarations ds := by
  have htype : ∀ (table : Draft.Table) (d : TypeDecl), table.addType d.bare = table.addType d := by
    intro table d
    induction table with
    | nil => rfl
    | cons entry table ih =>
      rw [Draft.Table.addType, Draft.Table.addType, ih]
      rfl
  have hadd : ∀ (table : Draft.Table) (d : Declaration), table.add d.bare = table.add d := by
    intro table d
    cases d with
    | type d => exact htype table d
    | member | globalUsing | unnamed => rfl
  rw [Draft.Table.ofDeclarations, List.foldl_map]
  simp only [hadd]
  rfl

/-- **A model does not see** the nodes of types. -/
theorem ofDeclarations_bare (b : Bool) (files : List (List Declaration)) :
    ofDeclarations b (files.map (List.map Declaration.bare)) = ofDeclarations b files := by
  have hbindings : (files.map (List.map Declaration.bare)).map bindingsOf =
      files.map bindingsOf := by
    rw [List.map_map]
    exact List.map_congr_left fun ds _ => bindingsOf_bare ds
  simp only [ofDeclarations, ← List.map_flatten, table_ofDeclarations_bare, globalUsings_bare,
    hbindings]

/-- A file can be replaced by one with the same declarations, up to the nodes of types. -/
theorem ofFiles_replace {f f' : SourceFile}
    (h : f.declarations.map Declaration.bare = f'.declarations.map Declaration.bare) (b : Bool)
    (before after : List SourceFile) :
    ofFiles b (before ++ f :: after) = ofFiles b (before ++ f' :: after) := by
  have hlists : ((before ++ f :: after).map SourceFile.declarations).map (List.map bare) =
      ((before ++ f' :: after).map SourceFile.declarations).map (List.map bare) := by
    simp only [List.map_append, List.map_cons, h]
  rw [ofFiles, ofFiles, ← ofDeclarations_bare, hlists, ofDeclarations_bare]

theorem globalUsings_replace {f f' : SourceFile}
    (h : f.declarations.map Declaration.bare = f'.declarations.map Declaration.bare)
    (before after : List SourceFile) :
    globalUsings ((before ++ f :: after).flatMap SourceFile.declarations) =
      globalUsings ((before ++ f' :: after).flatMap SourceFile.declarations) := by
  rw [← globalUsings_bare, ← globalUsings_bare (List.flatMap _ (before ++ f' :: after))]
  simp only [List.flatMap_append, List.flatMap_cons, List.map_append, h]

end Model

/-! ### Siblings one behind the other -/

section

variable {f : SourceFile}

/-- The scope behind a list of siblings. -/
def Declaration.scopeBehindAll (source : Text.Bytes) (scope : Scope) (cs : List Node) : Scope :=
  cs.foldl (scopeBehind source) scope

@[simp] theorem scopeBehindAll_nil (source : Text.Bytes) (scope : Scope) :
    scopeBehindAll source scope [] = scope := rfl

@[simp] theorem scopeBehindAll_cons (source : Text.Bytes) (scope : Scope) (c : Node)
    (cs : List Node) : scopeBehindAll source scope (c :: cs) =
      scopeBehindAll source (scopeBehind source scope c) cs := rfl

theorem ofSiblings_append (scope : Scope) (as bs : List Node) :
    ofSiblings f scope (as ++ bs) =
      ofSiblings f scope as ++ ofSiblings f (scopeBehindAll f.source scope as) bs := by
  induction as generalizing scope with
  | nil => rw [ofSiblings, scopeBehindAll_nil, List.nil_append, List.nil_append]
  | cons a as ih =>
    rw [List.cons_append, ofSiblings, ofSiblings, ih, List.append_assoc, scopeBehindAll_cons]

theorem ofSiblings_seen (scope : Scope) (cs : List Node) :
    ofSiblings f scope (cs.filter Node.isSeen) = ofSiblings f scope cs :=
  ofSiblings_filter (fun _ hc => (Node.isIgnored_of_not_isSeen hc).role_eq _) scope cs

theorem scopeBehindAll_seen (source : Text.Bytes) (scope : Scope) (cs : List Node) :
    scopeBehindAll source scope (cs.filter Node.isSeen) = scopeBehindAll source scope cs := by
  induction cs generalizing scope with
  | nil => rfl
  | cons c cs ih =>
    cases hc : c.isSeen with
    | true => rw [List.filter_cons_of_pos hc, scopeBehindAll_cons, scopeBehindAll_cons, ih]
    | false =>
      have hscope : scopeBehind source scope c = scope := by
        rw [scopeBehind, (Node.isIgnored_of_not_isSeen hc).role_eq]
      rw [List.filter_cons_of_neg (by simp [hc]), ih, scopeBehindAll_cons, hscope]

theorem scopeBehindAll_eq {source source' : Text.Bytes} {cs cs' : List Node}
    (h : Node.viewAll source cs = Node.viewAll source' cs') (scope : Scope) :
    scopeBehindAll source scope cs = scopeBehindAll source' scope cs' := by
  have halike := alike_of_viewAll_eq h
  rw [← scopeBehindAll_seen, ← scopeBehindAll_seen source']
  generalize cs.filter Node.isSeen = ds, cs'.filter Node.isSeen = ds' at halike ⊢
  induction halike generalizing scope with
  | nil => rw [scopeBehindAll_nil, scopeBehindAll_nil]
  | @cons c c' ds ds' hc _ ih =>
    have hrole : role source c = role source' c' := Alike.correspondence.role_eq (p := "") hc
    rw [scopeBehindAll_cons, scopeBehindAll_cons, scopeBehind_congr hrole, ih]

end

/-! ### Forms -/

/-- Whether a node is the body of a namespace. -/
def Node.Mark.IsBody (m : Node.Mark) : Prop :=
  m.label.field = some "body" ∨ m.label.kind = "declaration_list"

/-- The kinds of nodes that are followed from the root: those of using directives, namespaces and
types, and the bodies. -/
def followedKinds : List String :=
  ["using_directive", "namespace_declaration", "file_scoped_namespace_declaration",
    "class_declaration", "struct_declaration", "interface_declaration", "record_declaration",
    "record_struct_declaration", "enum_declaration", "declaration_list"]

/-- A node is the name of a namespace: it is in the field `name` and none of those that are
followed. -/
structure View.IsName (v : View) : Prop where
  field : v.mark.label.field = some "name"
  kind : v.mark.label.kind ∉ followedKinds

/-- The forms in which a namespace can appear, with the nodes that it has besides its name and its
declarations. -/
inductive NamespaceForm where
  /-- A node with a body, in which the declarations stand. -/
  | block (node body : Node.Mark) (hnode : node.label.kind = "namespace_declaration")
      (hbody : body.IsBody)
  /-- A node around the declarations. -/
  | around (node : Node.Mark) (hnode : node.label.kind = "file_scoped_namespace_declaration")
  /-- A node before the declarations. -/
  | before (node : Node.Mark) (hnode : node.label.kind = "file_scoped_namespace_declaration")

/-- A namespace with a name and some declarations. -/
def NamespaceForm.views (name : View) (decls : List View) : NamespaceForm → List View
  | .block node body _ _ => [.mk node [name, .mk body decls]]
  | .around node _ => [.mk node (name :: decls)]
  | .before node _ => .mk node [name] :: decls

/-! ### What the walk does in all forms -/

section

variable {source : Text.Bytes} {n m b : Node} {ds : List Node}

theorem kind_of_isName (h : (m.view source).IsName) : m.kind ∉ followedKinds := by
  have hkind := h.kind
  rwa [Node.view_eq] at hkind

theorem field_of_isName (h : (m.view source).IsName) : m.label.field = some "name" := by
  have hfield := h.field
  rwa [Node.view_eq] at hfield

/-- The name of a namespace is not followed. -/
theorem role_of_isName (h : (m.view source).IsName) : role source m = .other := by
  have hkind := kind_of_isName h
  have htype : m.typeKind? = none := by
    unfold Node.typeKind?
    split <;> simp_all [followedKinds]
  unfold role
  split <;> simp_all [followedKinds]

/-- The first child that is seen names the namespace. -/
theorem childInField?_of_isName (hn : n.children.filter Node.isSeen = m :: ds)
    (h : (m.view source).IsName) : n.childInField? "name" = some m := by
  have hignored : ∀ c : Node, c.isSeen = false → (c.label.field == some "name") = false :=
    fun c hc => (Node.isIgnored_of_not_isSeen hc).field_beq (by decide)
  rw [Node.childInField?, ← find?_kept hignored, hn]
  exact List.find?_cons_of_pos (by simp [field_of_isName h])

/-- The second of two children that are seen is the body. -/
theorem body?_of_isName (hn : n.children.filter Node.isSeen = [m, b])
    (h : (m.view source).IsName) (hbody : (b.mark source).IsBody) : n.body? = some b := by
  have hany : (n.children.any fun c => c.label.field == some "body") =
      (b.label.field == some "body") := by
    have hignored : ∀ c : Node, c.isSeen = false → (c.label.field == some "body") = false :=
      fun c hc => (Node.isIgnored_of_not_isSeen hc).field_beq (by decide)
    rw [← List.isSome_find?, ← find?_kept hignored, hn, List.isSome_find?]
    simp [field_of_isName h]
  have hname : isBody n.children m = false := by
    have hkind := kind_of_isName h
    rw [isBody, hany, field_of_isName h]
    simp_all [followedKinds]
  have hlast : isBody n.children b = true := by
    rw [isBody, hany]
    rcases hbody with hfield | hkind
    · simp_all [Node.mark]
    · simp_all [Node.mark, Node.kind]
  rw [Node.body?, ← find?_kept fun c hc => (Node.isIgnored_of_not_isSeen hc).isBody_eq _, hn,
    List.find?_cons_of_neg (by simp [hname]), List.find?_cons_of_pos hlast]

end

section

variable {f : SourceFile} {n m b : Node} {ks : List Node}

theorem ofSiblings_of_viewAll_eq_nil {ds : List Node} (h : Node.viewAll f.source ds = [])
    (scope : Scope) : ofSiblings f scope ds = [] := by
  rw [← ofSiblings_seen, Node.viewAll_eq_nil h, ofSiblings]

theorem ofSiblings_namespaceBlock (hkind : n.kind = "namespace_declaration")
    (hn : n.children.filter Node.isSeen = [m, b]) (hm : (m.view f.source).IsName)
    (hb : (b.mark f.source).IsBody) (scope : Scope) (ds : List Node) :
    ofSiblings f scope (n :: ds) =
      ofSiblings f (enter scope (m.name f.source)) b.children ++ ofSiblings f scope ds := by
  have hrole : role f.source n = .namespaceBlock (m.name f.source) := by
    simp [role, hkind, childInField?_of_isName hn hm]
  simp only [ofSiblings, ofNode_eq, scopeBehind, hrole, body?_of_isName hn hm hb]

/-- A namespace without a body holds for what stands in it and for what follows it. -/
theorem ofSiblings_fileNamespace (hkind : n.kind = "file_scoped_namespace_declaration")
    (hn : n.children.filter Node.isSeen = m :: ks) (hm : (m.view f.source).IsName)
    (scope : Scope) (ds : List Node) :
    ofSiblings f scope (n :: ds) = ofSiblings f (enter scope (m.name f.source)) ks ++
      ofSiblings f (enter scope (m.name f.source)) ds := by
  have hrole : role f.source n = .fileNamespace (m.name f.source) := by
    simp [role, hkind, childInField?_of_isName hn hm]
  have hname : ∀ scope, ofSiblings f scope (m :: ks) = ofSiblings f scope ks := by
    intro scope
    rw [ofSiblings, ofNode_eq, scopeBehind, role_of_isName hm, List.nil_append]
  simp only [ofSiblings, ofNode_eq, scopeBehind, hrole]
  rw [← ofSiblings_seen _ n.children, hn, hname]

end

/-- **In all forms the declarations are walked over in the scope inside the namespace.** -/
theorem NamespaceForm.ofSiblings_eq (form : NamespaceForm) {f : SourceFile} {cs : List Node}
    {name : View} {decls : List View} (hname : name.IsName)
    (h : Node.viewAll f.source cs = form.views name decls) :
    ∃ m ds, Node.view f.source m = name ∧ Node.viewAll f.source ds = decls ∧
      ∀ scope, ofSiblings f scope cs = ofSiblings f (enter scope (m.name f.source)) ds := by
  -- the node of the namespace comes first, and its name is the first of its children
  have hnode : ∀ {mark : Node.Mark} {vs ws : List View},
      Node.viewAll f.source cs = .mk mark (name :: vs) :: ws →
      ∃ n m ks ds, cs.filter Node.isSeen = n :: ds ∧ n.mark f.source = mark ∧
        n.children.filter Node.isSeen = m :: ks ∧ m.view f.source = name ∧
        Node.viewAll f.source ks = vs ∧ Node.viewAll f.source ds = ws := by
    intro mark vs ws hviews
    obtain ⟨n, ds, hcs, hn, hds⟩ := Node.viewAll_eq_cons hviews
    rw [Node.view_eq] at hn
    injection hn with hmark hchildren
    obtain ⟨m, ks, hks, hm, hvs⟩ := Node.viewAll_eq_cons hchildren
    exact ⟨n, m, ks, ds, hcs, hmark, hks, hm, hvs, hds⟩
  cases form with
  | block node body hkind hbody =>
    obtain ⟨n, m, ks, ds, hcs, rfl, hn, rfl, hks, hds⟩ := hnode h
    have hseen : ks.filter Node.isSeen = ks := List.filter_eq_self.2 fun c hc =>
      (List.mem_filter.1 (hn ▸ List.mem_cons_of_mem m hc)).2
    rw [Node.viewAll_eq, hseen, List.map_eq_singleton_iff] at hks
    obtain ⟨b, rfl, hb⟩ := hks
    rw [Node.view_eq] at hb
    injection hb with hmark hdecls
    refine ⟨m, b.children, rfl, hdecls, fun scope => ?_⟩
    rw [← ofSiblings_seen, hcs, ofSiblings_namespaceBlock hkind hn hname (hmark ▸ hbody),
      ofSiblings_of_viewAll_eq_nil hds, List.append_nil]
  | around node hkind =>
    obtain ⟨n, m, ks, ds, hcs, rfl, hn, rfl, hks, hds⟩ := hnode h
    refine ⟨m, ks, rfl, hks, fun scope => ?_⟩
    rw [← ofSiblings_seen, hcs, ofSiblings_fileNamespace hkind hn hname,
      ofSiblings_of_viewAll_eq_nil hds, List.append_nil]
  | before node hkind =>
    obtain ⟨n, m, ks, ds, hcs, rfl, hn, rfl, hks, hds⟩ := hnode h
    refine ⟨m, ds, rfl, hds, fun scope => ?_⟩
    rw [← ofSiblings_seen, hcs, ofSiblings_fileNamespace hkind hn hname,
      ofSiblings_of_viewAll_eq_nil hks, List.nil_append]

/-- **Files that differ in the form of a namespace declare the same**, up to the nodes of types. -/
theorem declarations_bare_eq {f f' : SourceFile} (hpath : f.path = f'.path)
    (form form' : NamespaceForm) {pre decls : List View} {name : View} (hname : name.IsName)
    (h : f.views = pre ++ form.views name decls) (h' : f'.views = pre ++ form'.views name decls) :
    f.declarations.map bare = f'.declarations.map bare := by
  obtain ⟨as, bs, hcs, has, hbs⟩ := Node.viewAll_eq_append h
  obtain ⟨as', bs', hcs', has', hbs'⟩ := Node.viewAll_eq_append h'
  obtain ⟨m, ds, hm, hds, heq⟩ := form.ofSiblings_eq hname hbs
  obtain ⟨m', ds', hm', hds', heq'⟩ := form'.ofSiblings_eq hname hbs'
  have hleading := alike_of_viewAll_eq (has.trans has'.symm)
  have hinside := alike_of_viewAll_eq (hds.trans hds'.symm)
  have hsame : Alike f.source f'.source m m' := hm.trans hm'.symm
  rw [SourceFile.declarations, SourceFile.declarations, ← ofSiblings_seen _ f.root.children,
    ← ofSiblings_seen _ f'.root.children, hcs, hcs', ofSiblings_append, ofSiblings_append, heq,
    heq', hsame.name_eq, scopeBehindAll_eq (has.trans has'.symm), map_eq_map_iff_forall₂]
  exact List.rel_append ((Alike.lockstep hpath).ofSiblings (p := "") hleading _)
    ((Alike.lockstep hpath).ofSiblings (p := "") hinside _)

/-- **The form of a namespace does not matter.**  Two files of the same path, in which the same
namespace with the same declarations stands behind the same siblings, in whatever forms, can be
replaced by each other: the model and the global usings of all files stay the same. -/
theorem namespaceForm_irrelevant {f f' : SourceFile} (hpath : f.path = f'.path)
    (form form' : NamespaceForm) {pre decls : List View} {name : View} (hname : name.IsName)
    (h : f.views = pre ++ form.views name decls) (h' : f'.views = pre ++ form'.views name decls)
    (b : Bool) (before after : List SourceFile) :
    Model.ofFiles b (before ++ f :: after) = Model.ofFiles b (before ++ f' :: after) ∧
      Model.globalUsings ((before ++ f :: after).flatMap SourceFile.declarations) =
        Model.globalUsings ((before ++ f' :: after).flatMap SourceFile.declarations) := by
  have hsame := declarations_bare_eq hpath form form' hname h h'
  exact ⟨Model.ofFiles_replace hsame b before after, Model.globalUsings_replace hsame before after⟩

/-- The name `N` of a namespace. -/
def nodeN : Node := leafAt "name" (some "name") ⟨18, 19⟩

/-- A class `A` in the namespace. -/
def nodeA : Node :=
  nodeAt "class_declaration" none ⟨21, 32⟩
    [leafAt "identifier" (some "name") ⟨27, 28⟩,
      nodeAt "base_list" none ⟨28, 30⟩ [leafAt "type" none ⟨29, 30⟩],
      nodeAt "declaration_list" (some "body") ⟨30, 32⟩ []]

/-- A file with a using directive and further nodes. -/
def fileBehindUsing (text : String) (nodes : List Node) : SourceFile :=
  ⟨default, Text.encode text,
    nodeAt "compilation_unit" none ⟨0, 33⟩ (leafAt "using_directive" none ⟨0, 8⟩ :: nodes)⟩

/-- The class in a namespace with a body. -/
def blockFile : SourceFile :=
  fileBehindUsing "using S;namespace N \x7bclass A:B\x7b\x7d\x7d"
    [nodeAt "namespace_declaration" none ⟨8, 33⟩
      [nodeN, nodeAt "declaration_list" (some "body") ⟨20, 33⟩ [nodeA]]]

/-- The class in a namespace without a body, which is read with its tokens. -/
def aroundFile : SourceFile :=
  fileBehindUsing "using S;namespace N ;class A:B\x7b\x7d "
    [nodeAt "file_scoped_namespace_declaration" none ⟨8, 32⟩
      [.mk { kind := "namespace", start := 8, stop := some 17, named := false } [], nodeN,
        .mk { kind := ";", start := 20, stop := some 21, named := false } [], nodeA]]

/-- The class behind a namespace without a body. -/
def beforeFile : SourceFile :=
  fileBehindUsing "using S;namespace N ;class A:B\x7b\x7d "
    [nodeAt "file_scoped_namespace_declaration" none ⟨8, 21⟩ [nodeN], nodeA]

/-- The mark of the namespace in one of these files. -/
def SourceFile.namespaceMark (f : SourceFile) : Node.Mark :=
  (f.root.children.getD 1 default).mark f.source

/-- The forms of the namespace in the three files. -/
def blockForm : NamespaceForm :=
  .block blockFile.namespaceMark
    ((nodeAt "declaration_list" (some "body") ⟨20, 33⟩ [nodeA]).mark blockFile.source) rfl
    (.inl rfl)

@[inherit_doc blockForm]
def aroundForm : NamespaceForm := .around aroundFile.namespaceMark rfl

@[inherit_doc blockForm]
def beforeForm : NamespaceForm := .before beforeFile.namespaceMark rfl

/-- What is seen before the namespace. -/
def leadingViews : List View := [(leafAt "using_directive" none ⟨0, 8⟩).view blockFile.source]

/-- What is seen of the name of the namespace. -/
def viewN : View := nodeN.view blockFile.source

/-- What is seen of the declarations in the namespace. -/
def viewsA : List View := [nodeA.view blockFile.source]

theorem namespaceForm_irrelevant_aroundFile :
    viewN.IsName ∧ blockFile.views = leadingViews ++ blockForm.views viewN viewsA ∧
      aroundFile.views = leadingViews ++ aroundForm.views viewN viewsA ∧
      beforeFile.views = leadingViews ++ beforeForm.views viewN viewsA ∧
      (Model.ofFiles true [blockFile]).declared = ["N.A"] ∧
      Model.ofFiles true [blockFile] = Model.ofFiles true [aroundFile] ∧
      Model.ofFiles true [aroundFile] = Model.ofFiles true [beforeFile] := by
  have hname : viewN.IsName := ⟨rfl, by decide⟩
  have hblock : blockFile.views = leadingViews ++ blockForm.views viewN viewsA := by
    decide +kernel
  have haround : aroundFile.views = leadingViews ++ aroundForm.views viewN viewsA := by
    decide +kernel
  have hbefore : beforeFile.views = leadingViews ++ beforeForm.views viewN viewsA := by
    decide +kernel
  have hpath : blockFile.path = aroundFile.path := rfl
  have hpath' : aroundFile.path = beforeFile.path := rfl
  refine ⟨hname, hblock, haround, hbefore, by decide +kernel, ?_, ?_⟩
  · exact (namespaceForm_irrelevant hpath blockForm aroundForm hname hblock haround true [] []).1
  · exact (namespaceForm_irrelevant hpath' aroundForm beforeForm hname haround hbefore true [] []).1

end Disposal
