import Disposal.Proofs.Correspondence

/-!
# Walks side by side

When the nodes of two trees correspond, the walks over them go side by side.  If what the two record
at corresponding nodes is related, so is all that they record.

* `Lockstep` are the conditions on what is recorded at single nodes;
* `Lockstep.ofType`, `Lockstep.ofNode`, `Lockstep.ofSiblings`: what two walks record is related.
-/

namespace Disposal

open Declaration

/-- Nodes correspond, and what is recorded at them is related: the types that two of them declare,
and the members. -/
structure Lockstep (f f' : SourceFile) (keep : Node → Bool) (R : String → Node → Node → Prop)
    (Same : Declaration → Declaration → Prop) : Prop extends
    Correspondence f.source f'.source keep R where
  type : ∀ {p n n'}, R p n n' → ∀ {kind}, n.typeKind? = some kind → ∀ scope outer name,
    Same (.type (.ofNode f scope outer kind name n)) (.type (.ofNode f' scope outer kind name n'))
  members : ∀ {p n n'}, R p n n' → ∀ owner scope, List.Forall₂ Same
    ((MemberDecl.ofNode f n).map (.member owner scope))
    ((MemberDecl.ofNode f' n').map (.member owner scope))
  globalUsing : ∀ target, Same (.globalUsing target) (.globalUsing target)
  unnamed : ∀ kind, Same (.unnamed kind) (.unnamed kind)

namespace Lockstep

variable {f f' : SourceFile} {keep : Node → Bool} {R : String → Node → Node → Prop}
  {Same : Declaration → Declaration → Prop} (h : Lockstep f f' keep R Same) {p : String}
  {n n' : Node}

include h

theorem ofType (hn : R p n n') (scope : Scope) (outer : Option String) {kind : TypeKind}
    (hkind : n.typeKind? = some kind) :
    List.Forall₂ Same (ofType f scope outer kind n)
      (Declaration.ofType f' scope outer kind n') := by
  induction n using Node.descendants_induction generalizing n' p scope outer kind with
  | _ n ih =>
    have hnames := h.nameInField_eq hn "name" (by decide)
    cases hname : n.childInField? "name" with
    | none =>
      rw [hname, Option.map_none, eq_comm, Option.map_eq_none_iff] at hnames
      rw [ofType_unnamed hname, ofType_unnamed hnames, h.kind_eq hn]
      exact .cons (h.unnamed _) .nil
    | some name =>
      rw [hname, Option.map_some, eq_comm, Option.map_eq_some_iff] at hnames
      obtain ⟨name', hname', htext⟩ := hnames
      obtain ⟨d, hd, heq⟩ := ofType_named f scope outer kind hname
      obtain ⟨d', hd', heq'⟩ := ofType_named f' scope outer kind hname'
      have hscope : d.scope = d'.scope := by rw [hd, hd', htext]; rfl
      have howner : d.qualifiedName = d'.qualifiedName := by rw [hd, hd', htext]; rfl
      have hsame : Same (.type d) (.type d') := by
        rw [hd, hd', htext]
        exact h.type hn hkind scope outer _
      have hignored : ∀ (f : SourceFile) (c : Node), keep c = false →
          ofMember f d'.scope d'.qualifiedName c = [] := by
        intro f c hc
        rw [ofMember, (h.ignored c hc).typeKind?_eq]
        simp [(h.ignored c hc).ofNode_eq f]
      have hbelow : ∀ c ∈ n.memberNodes.filter keep, c ∈ n.descendants :=
        fun c hc => Node.memberNodes_subset (List.mem_filter.1 hc).1
      rw [heq, heq', hscope, howner, ← flatMap_kept (hignored f), ← flatMap_kept (hignored f')]
      refine .cons hsame
        (List.rel_flatMap ((List.forall₂_and_left _ _).2 ⟨hbelow, h.memberNodes hn⟩) ?_)
      -- a node in the body is a nested type in both trees or in none
      rintro c c' ⟨hc, hcc'⟩
      rw [ofMember, ofMember, ← h.typeKind?_eq hcc']
      cases hk : c.typeKind? with
      | some kind => exact ih c hc hcc' _ _ hk
      | none => exact h.members hcc' _ _

theorem ofSiblings_of_ofNode {cs cs' : List Node} (hcs : List.Forall₂ (fun c c' =>
      role f.source c = role f'.source c' ∧ ∀ scope, List.Forall₂ Same
        (Declaration.ofNode f scope c) (Declaration.ofNode f' scope c'))
      (cs.filter keep) (cs'.filter keep)) (scope : Scope) :
    List.Forall₂ Same (Declaration.ofSiblings f scope cs)
      (Declaration.ofSiblings f' scope cs') := by
  rw [← ofSiblings_filter (fun c hc => (h.ignored c hc).role_eq _) scope cs,
    ← ofSiblings_filter (fun c hc => (h.ignored c hc).role_eq _) scope cs']
  generalize cs.filter keep = ds, cs'.filter keep = ds' at hcs
  induction hcs generalizing scope with
  | nil => rw [Declaration.ofSiblings, Declaration.ofSiblings]; exact .nil
  | @cons c c' ds ds' hc _ ih =>
    rw [Declaration.ofSiblings, Declaration.ofSiblings, scopeBehind_congr hc.1]
    exact List.rel_append (hc.2 scope) (ih _)

/-- **The walks over two of the siblings** record the same. -/
theorem ofNode (hn : R p n n') (scope : Scope) :
    List.Forall₂ Same (ofNode f scope n) (Declaration.ofNode f' scope n') := by
  induction n using Node.descendants_induction generalizing n' p scope with
  | _ n ih =>
    -- what stands in a namespace is below its node
    have below : ∀ {b b' : Node} {p : String}, R p b b' →
        (∀ c ∈ b.children, c ∈ n.descendants) → ∀ scope, List.Forall₂ Same
          (Declaration.ofSiblings f scope b.children)
          (Declaration.ofSiblings f' scope b'.children) := by
      intro b b' p hb hdescend scope
      have hbelow : ∀ c ∈ b.children.filter keep, c ∈ n.descendants :=
        fun c hc => hdescend c (List.mem_filter.1 hc).1
      have hchildren := (List.forall₂_and_left _ _).2 ⟨hbelow, h.children hb⟩
      refine h.ofSiblings_of_ofNode (hchildren.imp fun c c' hc => ?_) scope
      exact ⟨h.role_eq hc.2, ih c hc.1 hc.2⟩
    have hchild : ∀ c ∈ n.children, c ∈ n.descendants := fun c hc =>
      (Node.preorder_sublist_descendants hc).subset c.self_mem_preorder
    rw [ofNode_eq, ofNode_eq, ← h.role_eq hn]
    cases hrole : role f.source n with
    | usingDirective u =>
      simp only [ofUsing]
      split
      · split_ifs
        · exact .cons (h.globalUsing _) .nil
        · exact .nil
      · exact .nil
    | namespaceBlock name =>
      have hrel := h.body? hn
      have hinside : ∀ body, n.body? = some body → ∀ c ∈ body.children, c ∈ n.descendants := by
        intro body hbody c hc
        refine (Node.preorder_sublist_descendants (List.mem_of_find?_eq_some hbody)).subset ?_
        rw [Node.preorder_eq]
        exact List.mem_cons_of_mem _
          ((Node.preorder_sublist_descendants hc).subset c.self_mem_preorder)
      generalize n.body? = o, n'.body? = o' at hrel hinside
      cases hrel with
      | none => exact .nil
      | some hb => exact below hb (hinside _ rfl) _
    | fileNamespace name => exact below hn hchild _
    | type kind => exact h.ofType hn scope none (typeKind?_of_role hrole)
    | other => exact .nil

theorem ofSiblings {cs cs' : List Node}
    (hcs : List.Forall₂ (R p) (cs.filter keep) (cs'.filter keep)) (scope : Scope) :
    List.Forall₂ Same (Declaration.ofSiblings f scope cs) (Declaration.ofSiblings f' scope cs') :=
  h.ofSiblings_of_ofNode (hcs.imp fun _ _ hc => ⟨h.role_eq hc, h.ofNode hc⟩) scope

end Lockstep

end Disposal
