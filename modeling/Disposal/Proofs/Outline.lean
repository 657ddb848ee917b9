import Disposal.Proofs.Correspondence

/-!
# The outline of a syntax tree

The outline of a tree is what is left of it without comments and positions, together with what is
read of its texts: using directives as they are, modifiers without the blanks around them, and
names, types and base entries without any blanks.  Everything that is read from a node can be read
from its outline.

* `Node.outline` is the outline, `Twins` are nodes with the same outline in two sources;
* `Twins.children`: the children of twins are twins, one by one, if comments are left out;
* `Twins.correspondence`: twins are read alike;
* `Twins.types`: the type declarations at and below twins are twins.
-/

namespace Disposal

/-! ### Outlines -/

/-- What is read of the text at a node. -/
structure Outline.Texts where
  /-- The text of a using directive. -/
  directive : Option String
  /-- The text of a modifier, without the blanks around it. -/
  modifier : Option String
  /-- The text of a name, of a type or of a base entry, without blanks. -/
  name : Option String
  /-- The name of a declarator, without blanks. -/
  declared : Option String
  deriving DecidableEq, Repr, Inhabited

/-- A syntax tree without comments and positions. -/
inductive Outline where
  | mk (kind : String) (field : Option String) (named : Bool) (texts : Outline.Texts)
      (children : List Outline)
  deriving Repr, Inhabited

mutual
/-- Equality of outlines is decided from the root down. -/
def Outline.decEq : (a b : Outline) → Decidable (a = b)
  | .mk kind field named texts cs, .mk kind' field' named' texts' cs' =>
    letI := Outline.decEqAll cs cs'
    decidable_of_iff
      (kind = kind' ∧ field = field' ∧ named = named' ∧ texts = texts' ∧ cs = cs') (by simp)

/-- Equality of lists of outlines. -/
def Outline.decEqAll : (as bs : List Outline) → Decidable (as = bs)
  | [], [] => isTrue rfl
  | [], _ :: _ => isFalse (by simp)
  | _ :: _, [] => isFalse (by simp)
  | a :: as, b :: bs =>
    letI := Outline.decEq a b
    letI := Outline.decEqAll as bs
    decidable_of_iff (a = b ∧ as = bs) (by simp)
end

instance : DecidableEq Outline := Outline.decEq

namespace Node

/-- Whether a node is a comment: a comment has no role below its parent and nothing below it. -/
def isComment (n : Node) : Bool :=
  n.kind == "comment" && n.label.field.isNone && n.children.isEmpty

/-- What is read of the text at a node below a node of kind `parent`. -/
def texts (source : Text.Bytes) (parent : String) (n : Node) : Outline.Texts where
  directive := if n.kind = "using_directive" then some (n.text source) else none
  modifier := if n.kind = "modifier" then some (Text.trim (n.text source)) else none
  name := if n.isNaming parent then some (n.name source) else none
  declared :=
    if n.kind = "variable_declarator" then n.declarator?.map fun c => c.name source else none

mutual
/-- The outline of a node below a node of kind `parent`. -/
def outline (source : Text.Bytes) (parent : String) : Node → Outline
  | .mk l cs =>
    .mk l.kind l.field l.named ((Node.mk l cs).texts source parent) (outlineAll source l.kind cs)

/-- The outlines of some nodes below a node of kind `parent`, without comments. -/
def outlineAll (source : Text.Bytes) (parent : String) : List Node → List Outline
  | [] => []
  | c :: cs =>
    if c.isComment then outlineAll source parent cs
    else c.outline source parent :: outlineAll source parent cs
end

/-- The children of a node that are no comments. -/
def solid (n : Node) : List Node := n.children.filter fun c => !c.isComment

theorem outlineAll_eq (source : Text.Bytes) (parent : String) (cs : List Node) :
    outlineAll source parent cs =
      (cs.filter fun c => !c.isComment).map (outline source parent) := by
  induction cs with
  | nil => simp [outlineAll]
  | cons c cs ih =>
    rw [outlineAll, ih]
    cases hc : c.isComment <;> simp [hc]

theorem outline_eq (source : Text.Bytes) (parent : String) (n : Node) :
    n.outline source parent = .mk n.kind n.label.field n.label.named (n.texts source parent)
      (n.solid.map (outline source n.kind)) := by
  obtain ⟨l, cs⟩ := n
  rw [outline, outlineAll_eq]
  rfl

/-! ### Comments -/

theorem kind_of_isComment {n : Node} (h : n.isComment = true) : n.kind = "comment" := by
  simp only [isComment, Bool.and_eq_true, beq_iff_eq] at h
  exact h.1.1

theorem field_of_isComment {n : Node} (h : n.isComment = true) : n.label.field = none := by
  simp only [isComment, Bool.and_eq_true, Option.isNone_iff_eq_none] at h
  exact h.1.2

theorem children_of_isComment {n : Node} (h : n.isComment = true) : n.children = [] := by
  simp only [isComment, Bool.and_eq_true, List.isEmpty_iff] at h
  exact h.2

theorem isIgnored_of_isComment {n : Node} (h : n.isComment = true) : n.IsIgnored where
  kind := by
    rw [kind_of_isComment h]
    decide
  field := by
    rw [field_of_isComment h]
    decide
  entry := by simp [isBaseEntry, kind_of_isComment h]

end Node

/-- In a list without repetitions, an entry stands opposite to one entry of another list. -/
theorem eq_of_mem_zip {α β : Type} {xs : List α} {ys : List β} (h : xs.Nodup) {a : α} {b b' : β}
    (hb : (a, b) ∈ xs.zip ys) (hb' : (a, b') ∈ xs.zip ys) : b = b' := by
  induction xs generalizing ys with
  | nil => cases hb
  | cons x xs ih =>
    cases ys with
    | nil => cases hb
    | cons y ys =>
      rw [List.nodup_cons] at h
      rw [List.zip_cons_cons, List.mem_cons, Prod.mk.injEq] at hb hb'
      rcases hb with ⟨rfl, rfl⟩ | hb
      · rcases hb' with ⟨-, rfl⟩ | hb'
        · rfl
        · exact absurd (List.of_mem_zip hb').1 h.1
      · rcases hb' with ⟨rfl, rfl⟩ | hb'
        · exact absurd (List.of_mem_zip hb).1 h.1
        · exact ih h.2 hb hb'

/-! ### Twins -/

/-- Two nodes below nodes of kind `parent` have the same outline. -/
def Twins (source source' : Text.Bytes) (parent : String) (n n' : Node) : Prop :=
  n.outline source parent = n'.outline source' parent

namespace Twins

variable {source source' : Text.Bytes} {parent : String} {n n' : Node}

theorem kind_eq (h : Twins source source' parent n n') : n.kind = n'.kind := by
  rw [Twins, Node.outline_eq, Node.outline_eq, Outline.mk.injEq] at h
  exact h.1

theorem field_eq (h : Twins source source' parent n n') : n.label.field = n'.label.field := by
  rw [Twins, Node.outline_eq, Node.outline_eq, Outline.mk.injEq] at h
  exact h.2.1

theorem named_eq (h : Twins source source' parent n n') : n.label.named = n'.label.named := by
  rw [Twins, Node.outline_eq, Node.outline_eq, Outline.mk.injEq] at h
  exact h.2.2.1

theorem texts_eq (h : Twins source source' parent n n') :
    n.texts source parent = n'.texts source' parent := by
  rw [Twins, Node.outline_eq, Node.outline_eq, Outline.mk.injEq] at h
  exact h.2.2.2.1

/-- **The children of twins are twins**, one by one and without comments. -/
theorem children (h : Twins source source' parent n n') :
    List.Forall₂ (Twins source source' n.kind) n.solid n'.solid := by
  have hkind := h.kind_eq
  rw [Twins, Node.outline_eq, Node.outline_eq, Outline.mk.injEq] at h
  have hmaps := h.2.2.2.2
  rw [← hkind] at hmaps
  exact map_eq_map_iff_forall₂.1 hmaps

theorem isNaming_eq (h : Twins source source' parent n n') :
    n.isNaming parent = n'.isNaming parent := by
  rw [Node.isNaming, Node.isNaming, Node.isBaseEntry, Node.isBaseEntry, h.field_eq, h.named_eq,
    h.kind_eq]

/-- **Twins are read alike.** -/
theorem correspondence : Correspondence source source' (fun c => !c.isComment)
    (Twins source source') where
  ignored c hc := Node.isIgnored_of_isComment (by simpa using hc)
  kind_eq := kind_eq
  field_eq := field_eq
  named_eq := named_eq
  children := children
  text_eq {_ n n'} h hkind := by
    have hdirective := congrArg Outline.Texts.directive h.texts_eq
    simpa [Node.texts, hkind, h.kind_eq ▸ hkind] using hdirective
  trim_eq {_ n n'} h hkind := by
    have hmodifier := congrArg Outline.Texts.modifier h.texts_eq
    simpa [Node.texts, hkind, h.kind_eq ▸ hkind] using hmodifier
  name_eq {_ n n'} h hnaming := by
    have hname := congrArg Outline.Texts.name h.texts_eq
    simpa [Node.texts, hnaming, h.isNaming_eq ▸ hnaming] using hname
  declared_eq {_ n n'} h hkind := by
    have hdeclared := congrArg Outline.Texts.declared h.texts_eq
    simpa [Node.texts, hkind, h.kind_eq ▸ hkind] using hdeclared

end Twins

/-! ### Types -/

/-- The type declarations at and below a node, in document order. -/
def Node.types (n : Node) : List Node := n.preorder.filter Node.isType

theorem Node.types_of_isComment {n : Node} (h : n.isComment = true) : n.types = [] := by
  have htype : n.isType = false := by rw [isType, (isIgnored_of_isComment h).typeKind?_eq]; rfl
  rw [types, preorder_eq, descendants, children_of_isComment h]
  simp [htype]

/-- The types at and below a node: the node itself, and those below its children. -/
theorem Node.types_eq (n : Node) :
    n.types = (if n.isType then [n] else []) ++ n.solid.flatMap types := by
  have hbelow : n.solid.flatMap types = n.children.flatMap types :=
    flatMap_kept (fun c hc => types_of_isComment (by simpa using hc)) _
  rw [hbelow, types, preorder_eq, descendants, List.filter_cons, List.filter_flatMap]
  split_ifs <;> rfl

/-- **The types at and below twins are twins.** -/
theorem Twins.types {source source' : Text.Bytes} {parent : String} {n n' : Node}
    (h : Twins source source' parent n n') :
    List.Forall₂ (fun a b => ∃ p, Twins source source' p a b) n.types n'.types := by
  induction n using Node.descendants_induction generalizing n' parent with
  | _ n ih =>
    have htype : n.isType = n'.isType := by
      rw [Node.isType, Node.isType, Twins.correspondence.typeKind?_eq h]
    rw [Node.types_eq n, Node.types_eq n', htype]
    refine List.rel_append ?_ ?_
    · split_ifs
      · exact .cons ⟨parent, h⟩ .nil
      · exact .nil
    · have hsolid : ∀ c ∈ n.solid, c ∈ n.descendants := fun c hc =>
        (Node.preorder_sublist_descendants (List.mem_filter.1 hc).1).subset c.self_mem_preorder
      refine List.rel_flatMap ((List.forall₂_and_left _ _).2 ⟨hsolid, h.children⟩) ?_
      rintro c c' ⟨hc, htwins⟩
      exact ih c hc htwins

end Disposal
