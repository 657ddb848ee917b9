import Disposal.Proofs.Members
import Disposal.Proofs.Tree
import Mathlib.Data.List.Flatten
import Mathlib.Tactic.SplitIfs

/-!
# The walk over declarations

The declarations of a file come from a walk over its tree by several functions at once.  Here
each of them is given as an equation in what it finds below a node, and what the walk gives is
described in terms of the nodes:

* `Declaration.ofType_named`, `Declaration.ofNode_eq` are the equations;
* `Declaration.ofSiblings_forall` lifts a property of the declarations of single types to those
  of a file;
* `SourceFile.typeDecls_sublist`: every type is recorded from a node of its own, in document
  order, and `SourceFile.typeDecls_reads` says how;
* `SourceFile.declarations_owned`: a member follows the type that owns it;
* `SourceFile.membersIn_declarations`: the members under a name are those written directly in
  the declarations with that name.
-/

namespace Disposal

/-! ### Bodies -/

/-- The body of a declaration node. -/
def Node.body? (n : Node) : Option Node := n.children.find? (Declaration.isBody n.children)

/-- The nodes that stand directly in the body of a type declaration. -/
def Node.memberNodes (n : Node) : List Node :=
  match n.body? with
  | some body => if body.kind == "declaration_list" then body.namedChildren else []
  | none => []

/-- The members written directly in a declaration. -/
def TypeDecl.members (f : SourceFile) (d : TypeDecl) : List MemberDecl :=
  (d.node.memberNodes.filter fun c => c.typeKind?.isNone).flatMap (MemberDecl.ofNode f)

theorem Node.memberNodes_sublist (n : Node) :
    (n.memberNodes.flatMap Node.preorder).Sublist n.descendants := by
  unfold memberNodes
  split
  · rename_i body hbody
    split_ifs
    · have hchild : body ∈ n.children := List.mem_of_find?_eq_some hbody
      have hmembers : (body.namedChildren.flatMap preorder).Sublist body.preorder := by
        rw [preorder_eq]
        exact (List.Sublist.flatMap List.filter_sublist preorder).cons _
      exact hmembers.trans (preorder_sublist_descendants hchild)
    · simp
  · simp

theorem Node.memberNodes_subset {n c : Node} (h : c ∈ n.memberNodes) : c ∈ n.descendants :=
  n.memberNodes_sublist.subset (List.mem_flatMap.2 ⟨c, h, c.self_mem_preorder⟩)

namespace Declaration

/-! ### Equations -/

/-- The declarations of one node in the body of a type. -/
def ofMember (f : SourceFile) (scope : Scope) (owner : String) (c : Node) : List Declaration :=
  match c.typeKind? with
  | some kind => ofType f scope (some owner) kind c
  | none => (MemberDecl.ofNode f c).map (.member owner scope)

variable {f : SourceFile} {scope : Scope}

theorem ofMembers_eq (owner : String) (cs : List Node) :
    ofMembers f scope owner cs =
      (cs.filter fun c => c.label.named).flatMap (ofMember f scope owner) := by
  induction cs with
  | nil => simp [ofMembers]
  | cons c cs ih =>
    rw [ofMembers, ih]
    cases hc : c.label.named
    · simp [hc]
    · simp only [hc, List.filter_cons_of_pos, List.flatMap_cons, ↓reduceIte]
      rfl

theorem ofTypeBody_eq (owner : String) (body : Node → Bool) (cs : List Node) :
    ofTypeBody f scope owner body cs =
      match cs.find? body with
      | some b =>
        if b.kind == "declaration_list" then
          b.namedChildren.flatMap (ofMember f scope owner) else []
      | none => [] := by
  induction cs with
  | nil => simp [ofTypeBody]
  | cons c cs ih =>
    obtain ⟨l, ks⟩ := c
    rw [ofTypeBody, ih]
    by_cases hc : body (.mk l ks)
    · simp only [hc, List.find?_cons_of_pos, ↓reduceIte, ofMembers_eq]
      rfl
    · simp [hc]

theorem ofType_named (f : SourceFile) (scope : Scope) (outer : Option String) (kind : TypeKind)
    {n name : Node} (h : n.childInField? "name" = some name) :
    ∃ d, d = TypeDecl.ofNode f scope outer kind (name.name f.source) n ∧
      ofType f scope outer kind n =
        .type d :: n.memberNodes.flatMap (ofMember f d.scope d.qualifiedName) := by
  refine ⟨_, rfl, ?_⟩
  obtain ⟨l, cs⟩ := n
  rw [ofType, h]
  simp only [ofTypeBody_eq, Node.memberNodes, Node.body?, Node.children]
  split
  · split_ifs <;> rfl
  · rfl

theorem ofType_unnamed {outer : Option String} {kind : TypeKind} {n : Node}
    (h : n.childInField? "name" = none) :
    ofType f scope outer kind n = [.unnamed n.kind] := by
  obtain ⟨l, cs⟩ := n
  rw [ofType, h]
  rfl

theorem ofNamespaceBody_eq (body : Node → Bool) (cs : List Node) :
    ofNamespaceBody f scope body cs =
      match cs.find? body with
      | some b => ofSiblings f scope b.children
      | none => [] := by
  induction cs with
  | nil => simp [ofNamespaceBody]
  | cons c cs ih =>
    rw [ofNamespaceBody, ih]
    by_cases hc : body c
    · obtain ⟨l, ks⟩ := c
      simp only [hc, List.find?_cons_of_pos, ↓reduceIte, ofChildren, Node.children]
    · simp [hc]

theorem ofNode_eq (n : Node) :
    ofNode f scope n =
      match role f.source n with
      | .usingDirective u => ofUsing u
      | .namespaceBlock name =>
        match n.body? with
        | some b => ofSiblings f (enter scope name) b.children
        | none => []
      | .fileNamespace name => ofSiblings f (enter scope name) n.children
      | .type kind => ofType f scope none kind n
      | .other => [] := by
  obtain ⟨l, ks⟩ := n
  rw [ofNode]
  cases role f.source (.mk l ks) <;> simp only [ofNamespaceBody_eq, Node.body?, Node.children]

theorem typeKind?_of_role {source : Text.Bytes} {n : Node} {kind : TypeKind}
    (h : role source n = .type kind) : n.typeKind? = some kind := by
  unfold role at h
  split at h
  · cases h
  · cases hc : n.childInField? "name" <;> simp [hc] at h
  · cases hc : n.childInField? "name" <;> simp [hc] at h
  · cases hk : n.typeKind? <;> simp [hk] at h
    rw [h]

/-- Siblings without a role can be left out: they give nothing, and what follows them stands in the
same scope. -/
theorem ofSiblings_filter {keep : Node → Bool}
    (h : ∀ c, keep c = false → role f.source c = .other) (scope : Scope) (cs : List Node) :
    ofSiblings f scope (cs.filter keep) = ofSiblings f scope cs := by
  induction cs generalizing scope with
  | nil => rfl
  | cons c cs ih =>
    cases hc : keep c with
    | false =>
      rw [List.filter_cons_of_neg (by simp [hc]), ih, ofSiblings, ofNode_eq, scopeBehind, h c hc]
      rfl
    | true => rw [List.filter_cons_of_pos hc, ofSiblings, ofSiblings, ih]

/-- A property of the nodes of some trees and of a list of declarations holds of a list of
siblings and what it gives, if it holds of single types and of using directives, is kept when
lists are joined, and does not mind further nodes. -/
theorem ofSiblings_induction {Q : List Node → List Declaration → Prop} (nil : Q [] [])
    (append : ∀ {m n a b}, Q m a → Q n b → Q (m ++ n) (a ++ b))
    (sublist : ∀ {m n : List Node} {a}, m.Sublist n → Q m a → Q n a)
    (globalUsing : ∀ target, Q [] [.globalUsing target])
    (type : ∀ scope kind n, n.typeKind? = some kind → Q n.preorder (ofType f scope none kind n))
    (scope : Scope) (cs : List Node) : Q (cs.flatMap Node.preorder) (ofSiblings f scope cs) := by
  -- siblings are joined one by one
  have siblings : ∀ (cs : List Node), (∀ c ∈ cs, ∀ scope, Q c.preorder (ofNode f scope c)) →
      ∀ scope, Q (cs.flatMap Node.preorder) (ofSiblings f scope cs) := by
    intro cs
    induction cs with
    | nil => intro _ scope; rw [ofSiblings]; exact nil
    | cons c cs ih =>
      intro h scope
      rw [ofSiblings, List.flatMap_cons]
      exact append (h c List.mem_cons_self scope)
        (ih (fun c hc => h c (List.mem_cons_of_mem _ hc)) _)
  have empty : ∀ ns, Q ns [] := fun ns => sublist (List.nil_sublist ns) nil
  -- what stands in a namespace is below its node
  have node : ∀ n scope, Q n.preorder (ofNode f scope n) := by
    intro n
    induction n using Node.descendants_induction with
    | _ n ih =>
      intro scope
      rw [ofNode_eq]
      split
      · unfold ofUsing
        split
        · split_ifs
          · exact sublist (List.nil_sublist _) (globalUsing _)
          · exact empty _
        · exact empty _
      · split
        · rename_i name _ body hbody
          have hsub := Node.preorder_sublist_descendants (List.mem_of_find?_eq_some hbody)
          rw [Node.preorder_eq body] at hsub
          have hbelow : body.descendants.Sublist n.descendants :=
            (List.sublist_cons_self _ _).trans hsub
          refine sublist (hbelow.trans ?_) (siblings body.children (fun c hc => ih c ?_) _)
          · rw [Node.preorder_eq]; exact List.sublist_cons_self _ _
          · exact hbelow.subset
              ((Node.preorder_sublist_descendants hc).subset c.self_mem_preorder)
        · exact empty _
      · refine sublist ?_ (siblings n.children (fun c hc => ih c ?_) _)
        · rw [Node.preorder_eq]; exact List.sublist_cons_self _ _
        · exact (Node.preorder_sublist_descendants hc).subset c.self_mem_preorder
      · rename_i kind hrole
        exact type scope kind n (typeKind?_of_role hrole)
      · exact empty _
  exact siblings cs (fun c _ => node c) scope

/-- A property of lists of declarations that holds of what single types and using directives
give, and is kept when lists are joined, holds of what a list of siblings gives. -/
theorem ofSiblings_forall {Q : List Declaration → Prop} (nil : Q [])
    (append : ∀ {a b}, Q a → Q b → Q (a ++ b)) (globalUsing : ∀ target, Q [.globalUsing target])
    (type : ∀ scope kind n, n.typeKind? = some kind → Q (ofType f scope none kind n))
    (scope : Scope) (cs : List Node) : Q (ofSiblings f scope cs) :=
  ofSiblings_induction (Q := fun _ => Q) nil append (fun _ h => h) globalUsing type scope cs

/-! ### Types and members of a list of declarations -/

/-- The type that a declaration declares. -/
def type? : Declaration → Option TypeDecl
  | .type d => some d
  | _ => none

/-- The type declarations among some declarations. -/
def typesIn (ds : List Declaration) : List TypeDecl := ds.filterMap type?

/-- The declarations of the type named `q` among some declarations. -/
def typesOf (q : String) (ds : List Declaration) : List TypeDecl :=
  (typesIn ds).filter fun d => d.qualifiedName = q

/-- The member that a declaration adds to the type named `q`, with its scope. -/
def memberOf? (q : String) : Declaration → Option (MemberDecl × Scope)
  | .member owner scope m => if owner = q then some (m, scope) else none
  | _ => none

/-- The members that some declarations add to the type named `q`. -/
def membersIn (q : String) (ds : List Declaration) : List (MemberDecl × Scope) :=
  ds.filterMap (memberOf? q)

@[simp] theorem typesIn_append (a b : List Declaration) :
    typesIn (a ++ b) = typesIn a ++ typesIn b :=
  List.filterMap_append

@[simp] theorem membersIn_append (q : String) (a b : List Declaration) :
    membersIn q (a ++ b) = membersIn q a ++ membersIn q b :=
  List.filterMap_append

@[simp] theorem typesIn_nil : typesIn [] = [] := rfl

@[simp] theorem typesOf_nil (q : String) : typesOf q [] = [] := rfl

@[simp] theorem membersIn_nil (q : String) : membersIn q [] = [] := rfl

@[simp] theorem typesOf_append (q : String) (a b : List Declaration) :
    typesOf q (a ++ b) = typesOf q a ++ typesOf q b := by
  simp [typesOf]

@[simp] theorem typesIn_cons_type (d : TypeDecl) (ds : List Declaration) :
    typesIn (.type d :: ds) = d :: typesIn ds := rfl

theorem typesOf_cons_self {q : String} {d : TypeDecl} (h : d.qualifiedName = q)
    (ds : List Declaration) : typesOf q (.type d :: ds) = d :: typesOf q ds := by
  rw [typesOf, typesIn_cons_type, List.filter_cons_of_pos (by simpa using h), typesOf]

theorem typesOf_cons_of_ne {q : String} {d : TypeDecl} (h : d.qualifiedName ≠ q)
    (ds : List Declaration) : typesOf q (.type d :: ds) = typesOf q ds := by
  rw [typesOf, typesIn_cons_type, List.filter_cons_of_neg (by simpa using h), typesOf]

@[simp] theorem membersIn_cons_type (q : String) (d : TypeDecl) (ds : List Declaration) :
    membersIn q (.type d :: ds) = membersIn q ds := rfl

@[simp] theorem typesOf_cons_member (q owner : String) (scope : Scope) (m : MemberDecl)
    (ds : List Declaration) : typesOf q (.member owner scope m :: ds) = typesOf q ds := rfl

theorem membersIn_cons_member (q owner : String) (scope : Scope) (m : MemberDecl)
    (ds : List Declaration) : membersIn q (.member owner scope m :: ds) =
      if owner = q then (m, scope) :: membersIn q ds else membersIn q ds := by
  rw [membersIn, List.filterMap_cons, memberOf?]
  split_ifs <;> rfl

@[simp] theorem typesOf_cons_globalUsing (q target : String) (ds : List Declaration) :
    typesOf q (.globalUsing target :: ds) = typesOf q ds := rfl

@[simp] theorem membersIn_cons_globalUsing (q target : String) (ds : List Declaration) :
    membersIn q (.globalUsing target :: ds) = membersIn q ds := rfl

@[simp] theorem typesOf_cons_unnamed (q kind : String) (ds : List Declaration) :
    typesOf q (.unnamed kind :: ds) = typesOf q ds := rfl

@[simp] theorem membersIn_cons_unnamed (q kind : String) (ds : List Declaration) :
    membersIn q (.unnamed kind :: ds) = membersIn q ds := rfl

theorem typesIn_flatMap {α : Type} (g : α → List Declaration) (l : List α) :
    typesIn (l.flatMap g) = l.flatMap fun x => typesIn (g x) :=
  List.filterMap_flatMap ..

theorem membersIn_flatMap {α : Type} (q : String) (g : α → List Declaration) (l : List α) :
    membersIn q (l.flatMap g) = l.flatMap fun x => membersIn q (g x) :=
  List.filterMap_flatMap ..

@[simp] theorem typesIn_members (owner : String) (scope : Scope) (ms : List MemberDecl) :
    typesIn (ms.map (.member owner scope)) = [] := by
  simp [typesIn, type?, Function.comp_def]

theorem membersIn_members (q owner : String) (scope : Scope) (ms : List MemberDecl) :
    membersIn q (ms.map (.member owner scope)) =
      if owner = q then ms.map fun m => (m, scope) else [] := by
  simp only [membersIn, List.filterMap_map, Function.comp_def, memberOf?]
  split_ifs <;> simp [List.filterMap_eq_map']

/-! ### Types come from nodes -/

/-- The nodes of the types are type declarations among some nodes, in their order. -/
def FromNodes (ns : List Node) (ds : List Declaration) : Prop :=
  ((typesIn ds).map TypeDecl.node).Sublist (ns.filter Node.isType)

theorem FromNodes.append {m n : List Node} {a b : List Declaration} (ha : FromNodes m a)
    (hb : FromNodes n b) : FromNodes (m ++ n) (a ++ b) := by
  simpa [FromNodes] using List.Sublist.append ha hb

theorem FromNodes.sublist {m n : List Node} {a : List Declaration} (h : m.Sublist n)
    (ha : FromNodes m a) : FromNodes n a :=
  List.Sublist.trans ha (h.filter _)

theorem fromNodes_flatMap {l : List Node} {g : Node → List Declaration}
    (h : ∀ c ∈ l, FromNodes c.preorder (g c)) :
    FromNodes (l.flatMap Node.preorder) (l.flatMap g) := by
  induction l with
  | nil => exact List.nil_sublist _
  | cons c l ih =>
    rw [List.flatMap_cons, List.flatMap_cons]
    exact (h c List.mem_cons_self).append (ih fun c hc => h c (List.mem_cons_of_mem _ hc))

theorem fromNodes_ofType {outer : Option String} {kind : TypeKind} {n : Node}
    (hkind : n.typeKind? = some kind) : FromNodes n.preorder (ofType f scope outer kind n) := by
  induction n using Node.descendants_induction generalizing scope outer kind with
  | _ n ih =>
    cases hname : n.childInField? "name" with
    | none =>
      rw [ofType_unnamed hname]
      exact List.nil_sublist _
    | some name =>
      obtain ⟨d, hd, heq⟩ := ofType_named f scope outer kind hname
      have hbody : FromNodes n.descendants
          (n.memberNodes.flatMap (ofMember f d.scope d.qualifiedName)) := by
        refine FromNodes.sublist n.memberNodes_sublist (fromNodes_flatMap fun c hc => ?_)
        unfold ofMember
        split
        · rename_i k hk
          exact ih c (Node.memberNodes_subset hc) hk
        · simp [FromNodes]
      have htype : n.isType = true := by simp [Node.isType, hkind]
      have hnode : d.node = n := by rw [hd]; rfl
      rw [heq, Node.preorder_eq]
      simpa [FromNodes, htype, hnode] using hbody

/-! ### What is recorded of a type -/

/-- A type declaration is what a file has at its node, read in some scope. -/
def Reads (f : SourceFile) (d : TypeDecl) : Prop :=
  ∃ scope outer kind name, d.node.typeKind? = some kind ∧
    d.node.childInField? "name" = some name ∧
    d = TypeDecl.ofNode f scope outer kind (name.name f.source) d.node

theorem reads_ofType {outer : Option String} {kind : TypeKind} {n : Node}
    (hkind : n.typeKind? = some kind) :
    ∀ d ∈ typesIn (ofType f scope outer kind n), Reads f d := by
  induction n using Node.descendants_induction generalizing scope outer kind with
  | _ n ih =>
    cases hname : n.childInField? "name" with
    | none =>
      rw [ofType_unnamed hname]
      simp [typesIn, type?]
    | some name =>
      obtain ⟨d, hd, heq⟩ := ofType_named f scope outer kind hname
      have hnode : d.node = n := by rw [hd]; rfl
      rw [heq, typesIn_cons_type, typesIn_flatMap]
      intro e he
      rcases List.mem_cons.1 he with rfl | he
      · exact ⟨scope, outer, kind, name, by rw [hnode]; exact hkind, by rw [hnode]; exact hname,
          by rw [hnode]; exact hd⟩
      · obtain ⟨c, hc, he⟩ := List.mem_flatMap.1 he
        unfold ofMember at he
        split at he
        · rename_i k hk
          exact ih c (Node.memberNodes_subset hc) hk e he
        · simp at he

/-- The recorded name is the one that a symbol with the same names is known by. -/
theorem Reads.qualifiedName_eq {d : TypeDecl} (h : Reads f d) :
    d.qualifiedName = match d.containingType with
      | none => joinName d.namespaceName d.name
      | some outer =>
        if outer = "" then joinName d.namespaceName d.name else outer ++ "." ++ d.name := by
  obtain ⟨scope, outer, kind, name, -, -, hd⟩ := h
  rw [hd]
  cases outer <;> rfl

/-! ### Members follow their types -/

/-- Every member follows a declaration of the type that owns it, or its owner is among `seen`. -/
def Owned : (seen : List String) → List Declaration → Prop
  | _, [] => True
  | seen, .type d :: ds => Owned (d.qualifiedName :: seen) ds
  | seen, .member owner _ _ :: ds => owner ∈ seen ∧ Owned seen ds
  | seen, .globalUsing _ :: ds => Owned seen ds
  | seen, .unnamed _ :: ds => Owned seen ds

theorem Owned.mono {seen more : List String} (h : seen ⊆ more) {ds : List Declaration}
    (hd : Owned seen ds) : Owned more ds := by
  induction ds generalizing seen more with
  | nil => trivial
  | cons d ds ih =>
    cases d with
    | type d => exact ih (List.cons_subset_cons _ h) hd
    | member owner scope m => exact ⟨h hd.1, ih h hd.2⟩
    | globalUsing target => exact ih h hd
    | unnamed kind => exact ih h hd

theorem Owned.append {seen : List String} {a b : List Declaration} (ha : Owned seen a)
    (hb : Owned seen b) : Owned seen (a ++ b) := by
  induction a generalizing seen with
  | nil => exact hb
  | cons d a ih =>
    cases d with
    | type d => exact ih ha (hb.mono (List.subset_cons_self _ _))
    | member owner scope m => exact ⟨ha.1, ih ha.2 hb⟩
    | globalUsing target => exact ih ha hb
    | unnamed kind => exact ih ha hb

theorem owned_flatMap {α : Type} {seen : List String} {g : α → List Declaration} {l : List α}
    (h : ∀ x ∈ l, Owned seen (g x)) : Owned seen (l.flatMap g) := by
  induction l with
  | nil => trivial
  | cons x l ih =>
    rw [List.flatMap_cons]
    exact (h x List.mem_cons_self).append (ih fun y hy => h y (List.mem_cons_of_mem _ hy))

theorem owned_members {seen : List String} {owner : String} (h : owner ∈ seen) (scope : Scope)
    (ms : List MemberDecl) : Owned seen (ms.map (.member owner scope)) := by
  induction ms with
  | nil => trivial
  | cons m ms ih => exact ⟨h, ih⟩

theorem owned_ofType (seen : List String) {outer : Option String} {kind : TypeKind} {n : Node} :
    Owned seen (ofType f scope outer kind n) := by
  induction n using Node.descendants_induction generalizing seen scope outer kind with
  | _ n ih =>
    cases hname : n.childInField? "name" with
    | none =>
      rw [ofType_unnamed hname]
      trivial
    | some name =>
      obtain ⟨d, -, heq⟩ := ofType_named f scope outer kind hname
      rw [heq, Owned]
      refine owned_flatMap fun c hc => ?_
      unfold ofMember
      split
      · exact ih c (Node.memberNodes_subset hc) _
      · exact owned_members List.mem_cons_self _ _

/-! ### Members are those written in the declarations -/

/-- What a declaration names is longer than `owner`. -/
def Longer (owner : String) : Declaration → Prop
  | .type d => owner.length < d.qualifiedName.length
  | .member o _ _ => owner.length < o.length
  | .globalUsing _ => True
  | .unnamed _ => True

theorem Longer.trans {short long : String} (h : short.length < long.length) {d : Declaration}
    (hd : Longer long d) : Longer short d := by
  cases d with
  | type d => exact Nat.lt_trans h hd
  | member owner scope m => exact Nat.lt_trans h hd
  | globalUsing target => trivial
  | unnamed kind => trivial

theorem length_lt_of_nested {owner name : String} (h : owner ≠ "") {kind : TypeKind} {n : Node} :
    owner.length < (TypeDecl.ofNode f scope (some owner) kind name n).qualifiedName.length := by
  simp only [TypeDecl.ofNode, h, ↓reduceIte, String.length_append]
  have : ".".length = 1 := rfl
  omega

theorem ne_empty_of_length_lt {short long : String} (h : short.length < long.length) :
    long ≠ "" := by
  rintro rfl
  exact Nat.not_lt_zero _ h

theorem longer_ofType {owner : String} (howner : owner ≠ "") {kind : TypeKind} {n : Node} :
    ∀ e ∈ ofType f scope (some owner) kind n, Longer owner e := by
  induction n using Node.descendants_induction generalizing owner scope kind with
  | _ n ih =>
    cases hname : n.childInField? "name" with
    | none =>
      rw [ofType_unnamed hname]
      intro e he
      rw [List.mem_singleton.1 he]
      trivial
    | some name =>
      obtain ⟨d, hd, heq⟩ := ofType_named f scope (some owner) kind hname
      have hlt : owner.length < d.qualifiedName.length := by
        rw [hd]; exact length_lt_of_nested howner
      rw [heq]
      intro e he
      rcases List.mem_cons.1 he with rfl | he
      · exact hlt
      · obtain ⟨c, hc, he⟩ := List.mem_flatMap.1 he
        unfold ofMember at he
        split at he
        · exact (ih c (Node.memberNodes_subset hc) (ne_empty_of_length_lt hlt) e he).trans hlt
        · obtain ⟨m, -, rfl⟩ := List.mem_map.1 he
          exact hlt

theorem typesOf_of_longer {q : String} {ds : List Declaration} (h : ∀ e ∈ ds, Longer q e) :
    typesOf q ds = [] := by
  rw [typesOf, List.filter_eq_nil_iff]
  intro d hd
  obtain ⟨e, he, htype⟩ := List.mem_filterMap.1 hd
  cases e with
  | type d' =>
    obtain rfl : d' = d := by simpa [type?] using htype
    have hlt := h _ he
    intro heq
    rw [Longer, show d'.qualifiedName = q by simpa using heq] at hlt
    exact Nat.lt_irrefl _ hlt
  | _ => cases htype

theorem membersIn_of_longer {q : String} {ds : List Declaration} (h : ∀ e ∈ ds, Longer q e) :
    membersIn q ds = [] := by
  rw [membersIn, List.filterMap_eq_nil_iff]
  intro e he
  cases e with
  | member owner scope m =>
    have hlt := h _ he
    rw [memberOf?, if_neg]
    rintro rfl
    exact Nat.lt_irrefl _ hlt
  | _ => rfl

/-- The members under the name `q` are those written directly in the declarations of `q`. -/
def Grouped (f : SourceFile) (q : String) (ds : List Declaration) : Prop :=
  membersIn q ds = (typesOf q ds).flatMap fun d => (d.members f).map fun m => (m, d.scope)

theorem Grouped.append {q : String} {a b : List Declaration} (ha : Grouped f q a)
    (hb : Grouped f q b) : Grouped f q (a ++ b) := by
  unfold Grouped at ha hb ⊢
  rw [membersIn_append, ha, hb, typesOf_append, List.flatMap_append]

theorem grouped_flatMap {α : Type} {q : String} {g : α → List Declaration} {l : List α}
    (h : ∀ x ∈ l, Grouped f q (g x)) : Grouped f q (l.flatMap g) := by
  induction l with
  | nil => rfl
  | cons x l ih =>
    rw [List.flatMap_cons]
    exact (h x List.mem_cons_self).append (ih fun y hy => h y (List.mem_cons_of_mem _ hy))

/-- In the body of a type, the members under its own name are those written there: what is
nested has longer names. -/
theorem membersIn_body {q : String} (hq : q ≠ "") (scope : Scope) (cs : List Node) :
    membersIn q (cs.flatMap (ofMember f scope q)) =
      ((cs.filter fun c => c.typeKind?.isNone).flatMap (MemberDecl.ofNode f)).map
        fun m => (m, scope) := by
  induction cs with
  | nil => rfl
  | cons c cs ih =>
    rw [List.flatMap_cons, membersIn_append, ih]
    cases hc : c.typeKind? with
    | some kind =>
      have hnested : membersIn q (ofMember f scope q c) = [] := by
        rw [ofMember, hc]
        exact membersIn_of_longer (longer_ofType hq)
      simp [hnested, hc]
    | none =>
      have hmember : membersIn q (ofMember f scope q c) =
          (MemberDecl.ofNode f c).map fun m => (m, scope) := by
        rw [ofMember, hc]
        simp [membersIn_members]
      simp [hmember, hc]

theorem grouped_ofType {q : String} (hq : q ≠ "") {outer : Option String} {kind : TypeKind}
    {n : Node} : Grouped f q (ofType f scope outer kind n) := by
  induction n using Node.descendants_induction generalizing scope outer kind with
  | _ n ih =>
    cases hname : n.childInField? "name" with
    | none =>
      rw [ofType_unnamed hname]
      rfl
    | some name =>
      obtain ⟨d, hd, heq⟩ := ofType_named f scope outer kind hname
      have hnode : d.node = n := by rw [hd]; rfl
      rw [heq]
      by_cases hdq : d.qualifiedName = q
      · -- the type itself: nothing nested in it has its name
        have hnone : typesOf q (n.memberNodes.flatMap (ofMember f d.scope q)) = [] := by
          rw [typesOf, typesIn_flatMap, List.filter_flatMap, List.flatMap_eq_nil_iff]
          intro c hc
          unfold ofMember
          split
          · exact typesOf_of_longer (longer_ofType hq)
          · simp
        rw [Grouped, membersIn_cons_type, typesOf_cons_self hdq, hdq, membersIn_body hq, hnone]
        simp [TypeDecl.members, hnode]
      · -- another type: its own members are not among those of `q`
        have hbody : Grouped f q (n.memberNodes.flatMap (ofMember f d.scope d.qualifiedName)) := by
          refine grouped_flatMap fun c hc => ?_
          unfold ofMember
          split
          · exact ih c (Node.memberNodes_subset hc)
          · simp [Grouped, typesOf, membersIn_members, hdq]
        rw [Grouped, membersIn_cons_type, typesOf_cons_of_ne hdq]
        exact hbody

end Declaration

/-! ### The declarations of a file -/

namespace SourceFile

open Declaration

/-- The type declarations of a file, in the order they stand. -/
def typeDecls (f : SourceFile) : List TypeDecl := typesIn f.declarations

/-- **Every type is recorded from a node of its own**, in document order. -/
theorem typeDecls_sublist (f : SourceFile) :
    (f.typeDecls.map TypeDecl.node).Sublist (f.root.preorder.filter Node.isType) := by
  have h : FromNodes (f.root.children.flatMap Node.preorder) f.declarations :=
    ofSiblings_induction (Q := FromNodes) (List.nil_sublist _) FromNodes.append
      FromNodes.sublist (fun _ => List.nil_sublist _) (fun _ _ _ hkind => fromNodes_ofType hkind)
      _ _
  have hroot : (f.root.children.flatMap Node.preorder).Sublist f.root.preorder := by
    rw [Node.preorder_eq]; exact List.sublist_cons_self _ _
  exact h.sublist hroot

theorem typeDecls_reads (f : SourceFile) : ∀ d ∈ f.typeDecls, Reads f d := by
  refine ofSiblings_forall (Q := fun ds => ∀ d ∈ typesIn ds, Reads f d) (by simp [typesIn]) ?_
    (by simp [typesIn, type?]) (fun _ _ _ hkind => reads_ofType hkind) _ _
  intro a b ha hb d hd
  rw [typesIn_append] at hd
  exact (List.mem_append.1 hd).elim (ha d) (hb d)

theorem declarations_owned (f : SourceFile) : Owned [] f.declarations :=
  ofSiblings_forall trivial Owned.append (fun _ => trivial) (fun _ _ _ _ => owned_ofType []) _ _

/-- **The members under a name** are those written directly in the declarations with that name,
declaration by declaration. -/
theorem membersIn_declarations (f : SourceFile) {q : String} (hq : q ≠ "") :
    membersIn q f.declarations =
      (typesOf q f.declarations).flatMap fun d => (d.members f).map fun m => (m, d.scope) :=
  ofSiblings_forall (Q := Grouped f q) rfl Grouped.append (fun _ => rfl)
    (fun _ _ _ _ => grouped_ofType hq) _ _

end SourceFile

end Disposal
