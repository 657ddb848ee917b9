import Disposal.Proofs.Tree
import Mathlib.Data.List.Infix
import Mathlib.Tactic.SplitIfs

/-!
# Document order

A node of a tree is told from the others by its place: which child to take at the root, which one
there, and so on.  Document order is the lexicographic order of places, since a node stands in
front of everything below it.  A traversal need not go below every node.

* `Node.at?` is the node at a place, `Node.visited` are the places that a traversal comes to;
* `Node.mem_visited` says which places these are, and `Node.pairwise_visited` that they are in
  document order, each once;
* `Node.reached` are the nodes at these places, and `Node.reached_eq` finds them by recursion;
* `Node.ListsInOrder` is what it means to list certain nodes of a tree, and
  `Node.listsInOrder_reached` what a traversal lists.
-/

namespace Disposal

namespace Node

/-! ### Places -/

/-- The node at a place: the place tells which child to take, from the root on. -/
def at? : Node → (place : List Nat) → Option Node
  | n, [] => some n
  | n, i :: place => (n.children[i]?).bind fun c => c.at? place

mutual
/-- The places that a traversal comes to which goes below the nodes that `opens` holds of. -/
def visited (opens : Node → Bool) : Node → List (List Nat)
  | .mk l cs => [] :: if opens (.mk l cs) then visitedAmong opens 0 cs else []

/-- The places among some siblings, of which the first has the number `i`. -/
def visitedAmong (opens : Node → Bool) (i : Nat) : List Node → List (List Nat)
  | [] => []
  | c :: cs => (visited opens c).map (i :: ·) ++ visitedAmong opens (i + 1) cs
end

/-- The nodes that a traversal comes to which goes below the nodes that `opens` holds of. -/
def reached (opens : Node → Bool) (n : Node) : List Node := (n.visited opens).filterMap n.at?

variable {opens : Node → Bool} {n : Node} {p : List Nat}

theorem visited_eq (opens : Node → Bool) (n : Node) :
    n.visited opens = [] :: if opens n then visitedAmong opens 0 n.children else [] := by
  obtain ⟨l, cs⟩ := n
  rw [visited, children]

theorem mem_descendants_of_mem_children {c : Node} (h : c ∈ n.children) : c ∈ n.descendants :=
  (preorder_sublist_descendants h).subset c.self_mem_preorder

/-- What holds of a node whenever it holds of its children holds of every node. -/
theorem children_induction {P : Node → Prop} (h : ∀ n, (∀ c ∈ n.children, P c) → P n) (n : Node) :
    P n :=
  descendants_induction (fun n ih => h n fun c hc => ih c (mem_descendants_of_mem_children hc)) n

theorem mem_visitedAmong {cs : List Node} {i : Nat} : p ∈ visitedAmong opens i cs ↔
    ∃ k c q, cs[k]? = some c ∧ p = (i + k) :: q ∧ q ∈ c.visited opens := by
  induction cs generalizing i with
  | nil => simp [visitedAmong]
  | cons c cs ih =>
    rw [visitedAmong, List.mem_append, ih]
    constructor
    · rintro (hp | ⟨k, d, q, hd, rfl, hq⟩)
      · obtain ⟨q, hq, rfl⟩ := List.mem_map.1 hp
        exact ⟨0, c, q, rfl, rfl, hq⟩
      · exact ⟨k + 1, d, q, hd, by rw [Nat.add_right_comm, Nat.add_assoc], hq⟩
    · rintro ⟨k, d, q, hd, rfl, hq⟩
      cases k with
      | zero =>
        obtain rfl : c = d := Option.some.inj hd
        exact .inl (List.mem_map.2 ⟨q, hq, rfl⟩)
      | succ k => exact .inr ⟨k, d, q, hd, by rw [Nat.add_right_comm, Nat.add_assoc], hq⟩

/-- **The places that a traversal comes to** are those of nodes with only open nodes above them. -/
theorem mem_visited : p ∈ n.visited opens ↔ (∃ c, n.at? p = some c) ∧
    ∀ above c, above <+: p → above ≠ p → n.at? above = some c → opens c = true := by
  induction p generalizing n with
  | nil =>
    rw [visited_eq]
    refine iff_of_true List.mem_cons_self ⟨⟨n, rfl⟩, fun above c habove hne => ?_⟩
    exact absurd (List.prefix_nil.1 habove) hne
  | cons i p ih =>
    have hbelow : i :: p ∈ n.visited opens ↔
        opens n = true ∧ ∃ c, n.children[i]? = some c ∧ p ∈ c.visited opens := by
      rw [visited_eq, List.mem_cons, or_iff_right (by simp)]
      by_cases hopen : opens n = true
      · rw [if_pos hopen, mem_visitedAmong]
        simp [hopen]
      · simp [hopen]
    rw [hbelow]
    constructor
    · rintro ⟨hopen, c, hc, hp⟩
      obtain ⟨⟨d, hd⟩, habove⟩ := ih.1 hp
      refine ⟨⟨d, by rw [at?, hc, Option.bind_some, hd]⟩, fun above e hprefix hne he => ?_⟩
      cases above with
      | nil => exact Option.some.inj he ▸ hopen
      | cons j above =>
        obtain ⟨rfl, hrest⟩ := List.cons_prefix_cons.1 hprefix
        rw [at?, hc, Option.bind_some] at he
        exact habove above e hrest (fun h => hne (congrArg _ h)) he
    · rintro ⟨⟨d, hd⟩, habove⟩
      obtain ⟨c, hc, hd⟩ := Option.bind_eq_some_iff.1 hd
      refine ⟨habove [] n List.nil_prefix (List.cons_ne_nil i p).symm rfl, c, hc,
        ih.2 ⟨⟨d, hd⟩, fun above e hprefix hne he => ?_⟩⟩
      refine habove (i :: above) e (List.cons_prefix_cons.2 ⟨rfl, hprefix⟩) ?_ ?_
      · exact fun h => hne (List.cons.inj h).2
      · rw [at?, hc, Option.bind_some, he]

/-- **A traversal comes to its places in document order**, and to each of them once. -/
theorem pairwise_visited (opens : Node → Bool) (n : Node) :
    (n.visited opens).Pairwise (· < ·) := by
  have hamong : ∀ (cs : List Node) (i : Nat), (∀ c ∈ cs, (c.visited opens).Pairwise (· < ·)) →
      (visitedAmong opens i cs).Pairwise (· < ·) := by
    intro cs
    induction cs with
    | nil => intro i _; simp [visitedAmong]
    | cons c cs ih =>
      intro i h
      rw [List.forall_mem_cons] at h
      rw [visitedAmong, List.pairwise_append]
      refine ⟨?_, ih (i + 1) h.2, fun p hp q hq => ?_⟩
      · exact h.1.map _ fun p q hpq => List.cons_lt_cons_iff.2 (.inr ⟨rfl, hpq⟩)
      · -- later siblings have higher numbers
        obtain ⟨p, -, rfl⟩ := List.mem_map.1 hp
        obtain ⟨k, d, q, -, rfl, -⟩ := mem_visitedAmong.1 hq
        exact List.cons_lt_cons_iff.2 (.inl (by omega))
  induction n using children_induction with
  | _ n ih =>
    rw [visited_eq, List.pairwise_cons]
    split_ifs
    · refine ⟨fun p hp => ?_, hamong n.children 0 ih⟩
      obtain ⟨k, c, q, -, rfl, -⟩ := mem_visitedAmong.1 hp
      exact List.nil_lt_cons ..
    · exact ⟨fun p hp => absurd hp List.not_mem_nil, .nil⟩

/-! ### What stands at the places -/

theorem map_at?_visited (opens : Node → Bool) (n : Node) :
    (n.visited opens).map n.at? = (n.reached opens).map some := by
  have hsome : ∀ p ∈ n.visited opens, (n.at? p).isSome = true := fun p hp =>
    Option.isSome_iff_exists.2 (mem_visited.1 hp).1
  rw [reached]
  generalize n.visited opens = ps at hsome
  induction ps with
  | nil => rfl
  | cons p ps ih =>
    rw [List.forall_mem_cons] at hsome
    obtain ⟨c, hc⟩ := Option.isSome_iff_exists.1 hsome.1
    rw [List.map_cons, ih hsome.2, List.filterMap_cons_some hc, List.map_cons, hc]

theorem reached_eq (opens : Node → Bool) (n : Node) :
    n.reached opens = n :: if opens n then n.children.flatMap (reached opens) else [] := by
  have hamong : ∀ (before cs : List Node), n.children = before ++ cs →
      (visitedAmong opens before.length cs).filterMap n.at? = cs.flatMap (reached opens) := by
    intro before cs
    induction cs generalizing before with
    | nil => intro _; rfl
    | cons c cs ih =>
      intro hcs
      have hchild : n.children[before.length]? = some c := by simp [hcs]
      have hbelow : n.at? ∘ (before.length :: ·) = c.at? := by
        funext p
        rw [Function.comp_apply, at?, hchild, Option.bind_some]
      have hnext := ih (before ++ [c]) (by rw [hcs, List.append_assoc, List.singleton_append])
      rw [List.length_append, List.length_singleton] at hnext
      rw [visitedAmong, List.filterMap_append, List.filterMap_map, hbelow, hnext,
        List.flatMap_cons]
      rfl
  have hroot : n.at? [] = some n := rfl
  rw [reached, visited_eq, List.filterMap_cons_some hroot]
  split_ifs
  · rw [← hamong [] n.children rfl]
    rfl
  · rfl

theorem reached_all (n : Node) : n.reached (fun _ => true) = n.preorder := by
  induction n using children_induction with
  | _ n ih => rw [reached_eq, preorder_eq, descendants, if_pos rfl, List.flatMap_congr ih]

/-- A list of certain nodes of a tree: one entry for each place with a node that is wanted there,
in document order. -/
def ListsInOrder (root : Node) (wanted : List Nat → Node → Prop) (found : List Node) : Prop :=
  ∃ places : List (List Nat), places.Pairwise (· < ·) ∧
    (∀ p, p ∈ places ↔ ∃ n, root.at? p = some n ∧ wanted p n) ∧
    places.map root.at? = found.map some

/-- The nodes that a traversal comes to, and of those the ones that a test holds of. -/
theorem listsInOrder_reached (opens test : Node → Bool) (root : Node) :
    root.ListsInOrder
      (fun p n => test n = true ∧
        ∀ above c, above <+: p → above ≠ p → root.at? above = some c → opens c = true)
      ((root.reached opens).filter test) := by
  refine ⟨(root.visited opens).filter fun p => (root.at? p).any test,
    (pairwise_visited opens root).filter _, fun p => ?_, ?_⟩
  · rw [List.mem_filter, mem_visited, Option.any_eq_true]
    constructor
    · rintro ⟨⟨-, habove⟩, n, hn, htest⟩
      exact ⟨n, hn, htest, habove⟩
    · rintro ⟨n, hn, htest, habove⟩
      exact ⟨⟨⟨n, hn⟩, habove⟩, n, hn, htest⟩
  · have hany : (fun p => (root.at? p).any test) = (Option.any test) ∘ root.at? := rfl
    rw [hany, ← List.filter_map, map_at?_visited, List.filter_map]
    rfl

end Node

end Disposal
