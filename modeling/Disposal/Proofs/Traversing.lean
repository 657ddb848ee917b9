import Disposal.Proofs.Agreement
import Disposal.Proofs.DocumentOrder
import Mathlib.Algebra.GroupWithZero.Nat
import Mathlib.Algebra.Order.BigOperators.Group.List
import Mathlib.Algebra.Order.Group.Nat
import Mathlib.Logic.Relation
import Mathlib.Order.WellFounded

/-!
# Traversals with a stack

Trees are searched without recursion: the nodes still to be looked at stand on a stack, and the
children of a node are put there in reverse order when it is taken off.

* `Traversal.step` is one step, `Traversal.Steps` any number of them;
* `Traversal.outcome_step`: no step changes what will have been given out in the end, and
  `Traversal.sizeAll_step_lt`: every step takes a node away;
* `Traversal.runs`: so the traversal ends, and it gives out what is to be given out among the nodes
  that it comes to, in document order;
* `collect_follows_preorder` is what this means for class declarations and for candidates.
-/

namespace Disposal

open Relation

/-- How a traversal treats a node: whether it is given out, and whether its children are looked
at. -/
structure Traversal.Rule where
  yields : Node → Bool
  opens : Node → Bool

/-- A traversal on its way. -/
structure Traversal where
  /-- The nodes still to be looked at, the next one last. -/
  stack : List Node
  /-- The nodes given out so far. -/
  found : List Node := []

namespace Traversal

/-- One step: the node on the top of the stack is taken off, and its children are put there in
reverse order, so that the first of them comes next.  None when the stack is empty. -/
def step (r : Rule) (t : Traversal) : Option Traversal :=
  t.stack.getLast?.map fun n =>
    { stack := t.stack.dropLast ++ if r.opens n then n.children.reverse else []
      found := t.found ++ if r.yields n then [n] else [] }

/-- Any number of steps. -/
def Steps (r : Rule) : Traversal → Traversal → Prop :=
  ReflTransGen fun t next => t.step r = some next

/-- What a traversal has given out when it is over. -/
def outcome (r : Rule) (t : Traversal) : List Node :=
  t.found ++ (t.stack.reverse.flatMap (Node.reached r.opens)).filter r.yields

variable {r : Rule} {t next : Traversal}

theorem step_eq_none : t.step r = none ↔ t.stack = [] := by
  rw [step, Option.map_eq_none_iff, List.getLast?_eq_none_iff]

theorem step_cases (h : t.step r = some next) : ∃ rest n, t.stack = rest ++ [n] ∧
    next.stack = rest ++ (if r.opens n then n.children.reverse else []) ∧
    next.found = t.found ++ if r.yields n then [n] else [] := by
  obtain ⟨n, hn, rfl⟩ := Option.map_eq_some_iff.1 h
  obtain ⟨rest, hrest⟩ := List.getLast?_eq_some_iff.1 hn
  refine ⟨rest, n, hrest, ?_, rfl⟩
  simp only [hrest, List.dropLast_concat]

/-- **No step changes the outcome**: the children of a node stand on the stack for what is below
it. -/
theorem outcome_step (h : t.step r = some next) : next.outcome r = t.outcome r := by
  obtain ⟨rest, n, hstack, hnext, hfound⟩ := step_cases h
  have hchildren : (if r.opens n then n.children.reverse else []).reverse.flatMap
      (Node.reached r.opens) =
        if r.opens n then n.children.flatMap (Node.reached r.opens) else [] := by
    split_ifs <;> simp
  have hnode : (n.reached r.opens).filter r.yields = (if r.yields n then [n] else []) ++
      ((if r.opens n then n.children.reverse else []).reverse.flatMap
        (Node.reached r.opens)).filter r.yields := by
    rw [hchildren, Node.reached_eq, List.filter_cons]
    split_ifs <;> rfl
  rw [outcome, outcome, hstack, hnext, hfound, List.reverse_append, List.reverse_append,
    List.reverse_singleton, List.flatMap_append, List.flatMap_append, List.flatMap_singleton,
    List.filter_append, List.filter_append, hnode]
  simp only [List.append_assoc]

theorem outcome_steps (h : Steps r t next) : next.outcome r = t.outcome r := by
  induction h with
  | refl => rfl
  | tail _ hstep ih => rw [outcome_step hstep, ih]

theorem sizeAll_step_lt (h : t.step r = some next) :
    Node.sizeAll next.stack < Node.sizeAll t.stack := by
  have hreverse : ∀ cs : List Node, Node.sizeAll cs.reverse = Node.sizeAll cs := by
    intro cs
    induction cs with
    | nil => rfl
    | cons c cs ih =>
      rw [List.reverse_cons, Node.sizeAll_append, ih, Node.sizeAll, Node.sizeAll, Node.sizeAll]
      omega
  obtain ⟨rest, n, hstack, hnext, -⟩ := step_cases h
  have hn : Node.sizeAll [n] = 1 + Node.sizeAll n.children := by
    rw [Node.sizeAll, Node.sizeAll, Node.size_eq, Nat.add_zero]
  rw [hstack, hnext, Node.sizeAll_append, Node.sizeAll_append, hn]
  split_ifs
  · rw [hreverse]
    omega
  · rw [Node.sizeAll]
    omega

/-- The run of a traversal from the root of a tree is over and has given out some nodes. -/
def Runs (r : Rule) (root : Node) (found : List Node) : Prop :=
  ∃ final, Steps r { stack := [root] } final ∧ final.step r = none ∧ final.found = found

/-- **Every traversal ends.** -/
theorem exists_steps_done (r : Rule) (t : Traversal) :
    ∃ final, Steps r t final ∧ final.step r = none := by
  have hwf : WellFounded fun next t : Traversal => t.step r = some next :=
    Subrelation.wf (fun h => sizeAll_step_lt h)
      (InvImage.wf (fun t : Traversal => Node.sizeAll t.stack) wellFounded_lt)
  induction t using hwf.induction with
  | _ t ih =>
    cases hstep : t.step r with
    | none => exact ⟨t, .refl, hstep⟩
    | some next =>
      obtain ⟨final, hsteps, hdone⟩ := ih next hstep
      exact ⟨final, .head hstep hsteps, hdone⟩

/-- **A traversal with a stack** gives out the nodes to be given out among those that it comes to,
in document order. -/
theorem runs (r : Rule) (root : Node) :
    Runs r root ((root.reached r.opens).filter r.yields) := by
  obtain ⟨final, hsteps, hdone⟩ := exists_steps_done r { stack := [root] }
  have hfinal : final.outcome r = final.found := by
    rw [outcome, step_eq_none.1 hdone]
    exact List.append_nil _
  refine ⟨final, hsteps, hdone, ?_⟩
  rw [← hfinal, outcome_steps hsteps, outcome]
  simp

end Traversal

/-! ### Class declarations -/

/-- The search for class declarations gives these out and goes below every node. -/
def classRule : Traversal.Rule where
  yields := Node.isClass
  opens _ := true

theorem Node.listsInOrder_preorder (root : Node) (test : Node → Bool) :
    root.ListsInOrder (fun _ n => test n = true) (root.preorder.filter test) := by
  have hlists := listsInOrder_reached (fun _ => true) test root
  rw [reached_all] at hlists
  simpa using hlists

theorem SourceFile.length_classDeclarations_le (f : SourceFile) :
    f.root.classDeclarations.length ≤ f.stats.2 := by
  rw [Node.classDeclarations_eq, stats, ← List.countP_eq_length_filter]
  exact List.countP_mono_left fun n _ hn => Node.isType_of_isClass hn

/-- **The search with a stack agrees with the recursion.**  It lists the class declarations of a
tree, one for each place and in document order, which is what is left of the list of all nodes when
the others are left out.  So candidates are, file by file, the accepted nodes among these, and they
are never more than the type declarations that are counted in the files. -/
theorem collect_follows_preorder (root : Node) (filter : Filter) (files : List SourceFile) :
    Traversal.Runs classRule root root.classDeclarations ∧
    root.classDeclarations = root.preorder.filter Node.isClass ∧
    root.ListsInOrder (fun _ _ => True) root.preorder ∧
    root.ListsInOrder (fun _ n => n.kind = "class_declaration") root.classDeclarations ∧
    Candidate.collect filter files = (files.zipIdx.flatMap fun (f, index) =>
      ((f.root.preorder.filter Node.isClass).filter (filter.accepts f.source)).map
        (Candidate.mk index)) ∧
    (Candidate.collect filter files).length ≤ (files.map fun f => f.stats.2).sum := by
  have hclasses : root.classDeclarations = root.preorder.filter Node.isClass :=
    root.classDeclarations_eq
  refine ⟨?_, hclasses, ?_, ?_, ?_, ?_⟩
  · have hruns := Traversal.runs classRule root
    rwa [classRule, Node.reached_all, ← hclasses] at hruns
  · simpa using root.listsInOrder_preorder fun _ => true
  · rw [hclasses]
    simpa [Node.isClass] using root.listsInOrder_preorder Node.isClass
  · simp only [Candidate.collect, Candidate.ofFile, Node.classDeclarations_eq, List.flatMap_def]
  · rw [Candidate.length_collect, List.length_flatMap]
    exact List.sum_le_sum fun f _ =>
      (List.length_filter_le _ _).trans f.length_classDeclarations_le

end Disposal
