import Disposal.Node
import Mathlib.Data.List.Flatten

/-!
# Trees and their nodes

A tree is its root and what is below it, so properties of trees follow by induction on what is
below (`Node.descendants_induction`).  The class declarations of a tree are found with a list of
pending nodes; they are those of the document order (`Node.classDeclarations_eq`).
-/

namespace Disposal

namespace Node

theorem preorderAll_eq (cs : List Node) : preorderAll cs = cs.flatMap preorder := by
  induction cs with
  | nil => rfl
  | cons c cs ih => rw [preorderAll, ih, List.flatMap_cons]

/-- Everything below a node, in document order. -/
def descendants (n : Node) : List Node := n.children.flatMap preorder

theorem preorder_eq (n : Node) : n.preorder = n :: n.descendants := by
  obtain ⟨l, cs⟩ := n
  rw [preorder, preorderAll_eq, descendants, children]

theorem self_mem_preorder (n : Node) : n ∈ n.preorder := by
  rw [preorder_eq]; exact List.mem_cons_self

theorem preorder_sublist_descendants {n c : Node} (h : c ∈ n.children) :
    c.preorder.Sublist n.descendants := by
  simpa [descendants] using (List.singleton_sublist.2 h).flatMap preorder

/-- What holds of a node whenever it holds of everything below it holds of every node. -/
theorem descendants_induction {P : Node → Prop} (h : ∀ n, (∀ c ∈ n.descendants, P c) → P n)
    (n : Node) : P n := by
  have key : ∀ n : Node, ∀ c ∈ n.preorder, P c := by
    intro n
    refine Node.rec (motive_1 := fun n => ∀ c ∈ n.preorder, P c)
      (motive_2 := fun cs => ∀ c ∈ cs.flatMap preorder, P c) ?_ (by simp) ?_ n
    · intro l cs ih c hc
      rw [preorder_eq] at hc
      rcases List.mem_cons.1 hc with rfl | hc
      · exact h _ ih
      · exact ih c hc
    · intro c cs ihc ihcs d hd
      rw [List.flatMap_cons] at hd
      rcases List.mem_append.1 hd with hd | hd
      · exact ihc d hd
      · exact ihcs d hd
  exact key n n n.self_mem_preorder

/-! ### Class declarations -/

theorem sizeAll_append (cs ds : List Node) : sizeAll (cs ++ ds) = sizeAll cs + sizeAll ds := by
  induction cs with
  | nil => simp [sizeAll]
  | cons c cs ih => simp [sizeAll, ih, Nat.add_assoc]

theorem size_eq (n : Node) : n.size = 1 + sizeAll n.children := by
  obtain ⟨l, cs⟩ := n
  rw [size, children]

/-- Putting the children of the first pending node in front of the others keeps document
order. -/
theorem classesFrom_eq {fuel : Nat} {pending : List Node} (h : sizeAll pending ≤ fuel) :
    classesFrom fuel pending = (pending.flatMap preorder).filter isClass := by
  induction fuel generalizing pending with
  | zero =>
    cases pending with
    | nil => rfl
    | cons n pending => rw [sizeAll, size_eq] at h; omega
  | succ fuel ih =>
    cases pending with
    | nil => rfl
    | cons n pending =>
      have hrest : sizeAll (n.children ++ pending) ≤ fuel := by
        rw [sizeAll, size_eq] at h
        rw [sizeAll_append]
        omega
      rw [classesFrom, ih hrest, List.flatMap_append, List.flatMap_cons, preorder_eq, descendants]
      by_cases hn : n.isClass
      · simp [hn]
      · simp [hn]

/-- **The class declarations of a tree** are those of its nodes, in document order. -/
theorem classDeclarations_eq (n : Node) : n.classDeclarations = n.preorder.filter isClass := by
  rw [classDeclarations, classesFrom_eq (by simp [sizeAll])]
  simp

theorem mem_classDeclarations {n c : Node} :
    c ∈ n.classDeclarations ↔ c ∈ n.preorder ∧ c.isClass = true := by
  rw [classDeclarations_eq, List.mem_filter]

/-- Whether a node declares a type. -/
def isType (n : Node) : Bool := n.typeKind?.isSome

theorem isType_of_isClass {n : Node} (h : n.isClass = true) : n.isType = true := by
  have hk : n.kind = "class_declaration" := by simpa [isClass] using h
  simp [isType, typeKind?, hk]

end Node

end Disposal
