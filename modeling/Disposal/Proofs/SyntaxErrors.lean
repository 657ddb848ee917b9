import Disposal.Proofs.Traversing
import Disposal.Reader.Member
import Mathlib.Data.Prod.Lex

/-!
# Syntax errors

Where parsing broke is told by the outermost nodes that are in error or missing.  The search for
them passes over what is marked as free of errors and does not look into errors.

* `Node.errors_eq`: neither of the two loses an error, so that the errors are those of a traversal;
* `Node.errors_ne_nil_iff`: there are errors exactly if the root is marked as holding one;
* `Node.pairwise_errors`: the errors come in the order of their positions, and
  `Node.pointAt_le_pointAt` is the same for lines and columns;
* `SourceFile.describeErrors_eq`: what the description lists and what it only counts;
* `syntax_errors_reported` puts this together for a file.
-/

namespace Disposal

namespace Node

variable {n c root : Node} {p q : List Nat}

/-- Whether a node is a syntax error: it covers text that could not be parsed, or it is missing. -/
def isBroken (n : Node) : Bool := n.isError || n.isMissing

/-- Nodes are marked as holding an error only if they are one, or a child of theirs holds one. -/
def MarksErrors (root : Node) : Prop := ∀ n ∈ root.preorder,
  n.hasError = true ↔ n.isBroken = true ∨ ∃ c ∈ n.children, c.hasError = true

instance (root : Node) : Decidable root.MarksErrors :=
  inferInstanceAs (Decidable (∀ n ∈ root.preorder,
    n.hasError = true ↔ n.isBroken = true ∨ ∃ c ∈ n.children, c.hasError = true))

/-! ### What the search comes to -/

theorem errorsAll_eq (cs : List Node) : errorsAll cs = cs.flatMap errors := by
  induction cs with
  | nil => rfl
  | cons c cs ih => rw [errorsAll, ih, List.flatMap_cons]

theorem errors_cases (n : Node) : n.errors =
    if n.isBroken then [n] else if n.hasError then n.children.flatMap errors else [] := by
  obtain ⟨l, cs⟩ := n
  rw [errors, errorsAll_eq]
  rfl

theorem hasError_of_isBroken (h : n.isBroken = true) : n.hasError = true := by
  obtain ⟨l, cs⟩ := n
  rw [isBroken, Bool.or_eq_true] at h
  rw [hasError]
  rcases h with h | h
  · simp [h]
  · have hmissing : l.missing = true := h
    simp [hmissing]

theorem hasError_of_child (hc : c ∈ n.children) (h : c.hasError = true) : n.hasError = true := by
  have hany : ∀ cs : List Node, c ∈ cs → hasErrorAny cs = true := by
    intro cs hmem
    induction cs with
    | nil => cases hmem
    | cons d cs ih =>
      rw [hasErrorAny, Bool.or_eq_true]
      rcases List.mem_cons.1 hmem with rfl | hmem
      · exact .inl h
      · exact .inr (ih hmem)
  obtain ⟨l, cs⟩ := n
  rw [hasError, hany cs hc, Bool.or_true]

end Node

/-- The search for errors gives out broken nodes.  It does not look into them, nor into what is
marked as free of errors. -/
def errorRule : Traversal.Rule where
  yields := Node.isBroken
  opens n := !n.isBroken && n.hasError

namespace Node

variable {n c root : Node} {p q : List Nat}

/-- **The errors of a tree** are the broken nodes that a traversal comes to. -/
theorem errors_eq (n : Node) : n.errors = (n.reached errorRule.opens).filter isBroken := by
  induction n using children_induction with
  | _ n ih =>
    rw [errors_cases, reached_eq, List.filter_cons]
    cases hbroken : n.isBroken with
    | true => simp [errorRule, hbroken]
    | false =>
      cases herror : n.hasError with
      | true => simpa [errorRule, hbroken, herror, List.filter_flatMap] using List.flatMap_congr ih
      | false => simp [errorRule, hbroken, herror]

theorem at?_append (p q : List Nat) (n : Node) : n.at? (p ++ q) = (n.at? p).bind (at? · q) := by
  induction p generalizing n with
  | nil => rfl
  | cons i p ih =>
    rw [List.cons_append, at?, at?, Option.bind_assoc]
    exact Option.bind_congr fun c _ => ih c

theorem hasError_of_at? (hc : n.at? p = some c) (h : c.hasError = true) : n.hasError = true := by
  induction p generalizing n with
  | nil => exact Option.some.inj hc ▸ h
  | cons i p ih =>
    obtain ⟨d, hd, hc⟩ := Option.bind_eq_some_iff.1 hc
    exact hasError_of_child (List.mem_of_getElem? hd) (ih hc)

/-- **The search loses no error**: the errors are the broken nodes without a broken node above
them. -/
theorem listsInOrder_errors (root : Node) : root.ListsInOrder
    (fun p n => n.isBroken = true ∧
      ∀ above c, above <+: p → above ≠ p → root.at? above = some c → c.isBroken = false)
    root.errors := by
  obtain ⟨places, hsorted, hmem, hfound⟩ := listsInOrder_reached errorRule.opens isBroken root
  refine ⟨places, hsorted, fun p => ?_, errors_eq root ▸ hfound⟩
  rw [hmem]
  refine exists_congr fun n => and_congr_right fun hn => and_congr_right fun hbroken => ?_
  refine forall₃_congr fun above c hprefix => forall₂_congr fun _ hc => ?_
  -- the marks open the way down to a broken node
  have herror : c.hasError = true := by
    obtain ⟨rest, rfl⟩ := hprefix
    rw [at?_append, hc, Option.bind_some] at hn
    exact hasError_of_at? hn (hasError_of_isBroken hbroken)
  simp [errorRule, herror]

/-- **There are errors** exactly if the root is marked as holding one. -/
theorem errors_ne_nil_iff (h : root.MarksErrors) : root.errors ≠ [] ↔ root.hasError = true := by
  induction root using children_induction with
  | _ n ih =>
    have hn := h n n.self_mem_preorder
    rw [errors_cases]
    cases hbroken : n.isBroken with
    | true => simp [hasError_of_isBroken hbroken]
    | false =>
      cases herror : n.hasError with
      | false => simp
      | true =>
        obtain ⟨c, hc, hchild⟩ := (hn.1 herror).resolve_left (by simp [hbroken])
        have hbelow : c.MarksErrors := fun d hd => h d <| by
          rw [preorder_eq]
          exact List.mem_cons_of_mem _ ((preorder_sublist_descendants hc).subset hd)
        have herrors : c.errors ≠ [] := (ih c hc hbelow).2 hchild
        simp only [Bool.false_eq_true, if_false, if_true, iff_true]
        exact fun hnil => herrors (List.flatMap_eq_nil_iff.1 hnil c hc)

/-! ### Positions -/

/-- Siblings stand in the order of their positions: whatever is at or below the one does not start
behind what is at or below a later one. -/
def InPosition (root : Node) : Prop := ∀ n ∈ root.preorder,
  n.children.Pairwise fun c d =>
    ∀ x ∈ c.preorder, ∀ y ∈ d.preorder, x.label.start ≤ y.label.start

theorem InPosition.of_child (h : n.InPosition) (hc : c ∈ n.children) : c.InPosition :=
  fun d hd => h d <| by
    rw [preorder_eq]
    exact List.mem_cons_of_mem _ ((preorder_sublist_descendants hc).subset hd)

theorem errors_subset_preorder (n : Node) : n.errors ⊆ n.preorder := by
  induction n using children_induction with
  | _ n ih =>
    rw [errors_cases, preorder_eq]
    split_ifs
    · exact List.cons_subset_cons _ (List.nil_subset _)
    · intro d hd
      obtain ⟨c, hc, hd⟩ := List.mem_flatMap.1 hd
      exact List.mem_cons_of_mem _ ((preorder_sublist_descendants hc).subset (ih c hc hd))
    · exact List.nil_subset _

/-- **The errors come in the order of their positions.** -/
theorem pairwise_errors (h : n.InPosition) :
    n.errors.Pairwise fun m n => m.label.start ≤ n.label.start := by
  induction n using children_induction with
  | _ n ih =>
    rw [errors_cases]
    split_ifs
    · exact List.pairwise_singleton _ _
    · refine List.pairwise_flatMap.2 ⟨fun c hc => ih c hc (h.of_child hc), ?_⟩
      exact (h n n.self_mem_preorder).imp fun {c d} hcd x hx y hy =>
        hcd x (errors_subset_preorder c hx) y (errors_subset_preorder d hy)
    · exact .nil

/-- No node ends before it starts, and the children of a node lie inside of it, one behind the
other. -/
structure Nested (root : Node) : Prop where
  ends : ∀ n ∈ root.preorder, n.span.start ≤ n.span.stop
  inside : ∀ n ∈ root.preorder, ∀ c ∈ n.children,
    n.span.start ≤ c.span.start ∧ c.span.stop ≤ n.span.stop
  ordered : ∀ n ∈ root.preorder, n.children.Pairwise fun c d => c.span.stop ≤ d.span.start

theorem Nested.of_child (h : n.Nested) (hc : c ∈ n.children) : c.Nested := by
  have hsubset : ∀ d ∈ c.preorder, d ∈ n.preorder := fun d hd => by
    rw [preorder_eq n]
    exact List.mem_cons_of_mem _ ((preorder_sublist_descendants hc).subset hd)
  exact ⟨fun d hd => h.ends d (hsubset d hd), fun d hd => h.inside d (hsubset d hd),
    fun d hd => h.ordered d (hsubset d hd)⟩

theorem Nested.starts_inside (h : n.Nested) {d : Node} (hd : d ∈ n.preorder) :
    n.span.start ≤ d.span.start ∧ d.span.start ≤ n.span.stop := by
  induction n using children_induction with
  | _ n ih =>
    rw [preorder_eq] at hd
    rcases List.mem_cons.1 hd with rfl | hd
    · exact ⟨Nat.le_refl _, h.ends d d.self_mem_preorder⟩
    · obtain ⟨c, hc, hd⟩ := List.mem_flatMap.1 hd
      obtain ⟨hstart, hstop⟩ := h.inside n n.self_mem_preorder c hc
      obtain ⟨hlow, hhigh⟩ := ih c hc (h.of_child hc) hd
      exact ⟨hstart.trans hlow, hhigh.trans hstop⟩

theorem Nested.inPosition (h : root.Nested) : root.InPosition := by
  induction root using children_induction with
  | _ n ih =>
    intro d hd
    rw [preorder_eq] at hd
    rcases List.mem_cons.1 hd with rfl | hd
    · refine (h.ordered d d.self_mem_preorder).imp_of_mem fun {c e} hc he hce x hx y hy => ?_
      exact ((h.of_child hc).starts_inside hx).2.trans
        (hce.trans ((h.of_child he).starts_inside hy).1)
    · obtain ⟨c, hc, hd⟩ := List.mem_flatMap.1 hd
      exact ih c hc (h.of_child hc) d hd

/-! ### Lines and columns -/

/-- Line and column of an offset: the line feeds before it, and the bytes behind the last one. -/
theorem pointAt_eq (source : Text.Bytes) (offset : Nat) : pointAt source offset =
    ((source.take offset).count 10,
      ((source.take offset).reverse.takeWhile (· ≠ 10)).length) := by
  rw [pointAt]
  generalize source.take offset = bytes
  induction bytes using List.reverseRecOn with
  | nil => rfl
  | append_singleton bytes b ih =>
    rw [List.foldl_append, ih, List.count_append, List.reverse_append, List.reverse_singleton,
      List.singleton_append, List.takeWhile_cons]
    by_cases hb : b = 10
    · simp [hb]
    · simp [hb]

/-- **Lines and columns go up** with the offset. -/
theorem pointAt_le_pointAt (source : Text.Bytes) {a b : Nat} (h : a ≤ b) :
    toLex (pointAt source a) ≤ toLex (pointAt source b) := by
  obtain ⟨rest, hrest⟩ : ∃ rest, source.take b = source.take a ++ rest :=
    ⟨(source.drop a).take (b - a), by rw [← List.take_add, Nat.add_sub_cancel' h]⟩
  rw [pointAt_eq, pointAt_eq, hrest, List.count_append, List.reverse_append,
    Prod.Lex.toLex_le_toLex]
  by_cases hfeed : (10 : UInt8) ∈ rest
  · have hcount := List.count_pos_iff.2 hfeed
    exact .inl (by omega)
  · refine .inr ⟨by rw [List.count_eq_zero.2 hfeed, Nat.add_zero], ?_⟩
    have hkeep : ∀ x ∈ rest.reverse, (decide (x ≠ (10 : UInt8))) = true := fun x hx => by
      simpa using fun heq : x = 10 => hfeed (heq ▸ List.mem_reverse.1 hx)
    rw [List.takeWhile_append_of_pos hkeep, List.length_append]
    exact Nat.le_add_left _ _

end Node

/-! ### Descriptions -/

namespace SourceFile

/-- The number of the line that an offset stands on, counted from 1. -/
def lineAt (f : SourceFile) (offset : Nat) : Nat := (f.source.take offset).count 10 + 1

/-- The number of the byte on its line that an offset stands at, counted from 1. -/
def columnAt (f : SourceFile) (offset : Nat) : Nat :=
  ((f.source.take offset).reverse.takeWhile (· ≠ 10)).length + 1

theorem describeError_eq (f : SourceFile) (n : Node) : f.describeError n =
    Nat.repr (f.lineAt n.label.start) ++ ":" ++ Nat.repr (f.columnAt n.label.start) ++ " " ++
      if n.isMissing then "missing " ++ n.kind else "error" := by
  rw [describeError, lineColumn, Node.point, Node.pointAt_eq]
  rfl

theorem describeErrors_eq (f : SourceFile) (limit : Nat) : f.describeErrors limit =
    ", ".intercalate ((f.root.errors.take limit).map f.describeError) ++
      if f.root.errors.drop limit = [] then ""
      else " (+" ++ Nat.repr (f.root.errors.drop limit).length ++ " more)" := by
  rw [describeErrors]
  simp only [Int.toNat_natCast, Int.ofNat_lt, List.drop_eq_nil_iff]
  by_cases hmore : limit < f.root.errors.length
  · have hcount : (f.root.errors.length : Int) - (limit : Int) =
        Int.ofNat (f.root.errors.drop limit).length := by
      rw [List.length_drop]
      simp only [Int.ofNat_eq_natCast]
      omega
    rw [if_pos hmore, if_neg (Nat.not_le.2 hmore), hcount]
    simp only [String.append_assoc]
    rfl
  · rw [if_neg hmore, if_pos (Nat.not_lt.1 hmore), String.append_empty]

end SourceFile

/-- **Syntax errors are reported** completely and counted correctly.  In a file whose tree marks
errors as it should, the search lists each broken node that has no broken node above it, and no
other, in document order; it finds one exactly if the root is marked.  When siblings stand in the
order of their positions, so do the errors, by offset as well as by line and column.  A description
lists the first of them with line and column, and it counts those that are left, if there are any.
-/
theorem syntax_errors_reported (f : SourceFile) (h : f.root.MarksErrors) :
    Traversal.Runs errorRule f.root f.root.errors ∧
    f.root.ListsInOrder
      (fun p n => (n.isError = true ∨ n.isMissing = true) ∧
        ∀ above c, above <+: p → above ≠ p → f.root.at? above = some c →
          c.isError = false ∧ c.isMissing = false)
      f.root.errors ∧
    (f.root.errors ≠ [] ↔ f.root.hasError = true) ∧
    (f.root.InPosition → f.root.errors.Pairwise fun m n =>
      m.label.start ≤ n.label.start ∧ toLex (m.point f.source) ≤ toLex (n.point f.source)) ∧
    ∀ limit : Nat, ∃ listed rest, f.root.errors = listed ++ rest ∧
      listed.length = min limit f.root.errors.length ∧
      (rest ≠ [] ↔ limit < f.root.errors.length) ∧
      f.describeErrors limit =
        ", ".intercalate (listed.map fun n =>
          Nat.repr (f.lineAt n.label.start) ++ ":" ++ Nat.repr (f.columnAt n.label.start) ++ " " ++
            if n.isMissing then "missing " ++ n.kind else "error") ++
        if rest = [] then "" else " (+" ++ Nat.repr rest.length ++ " more)" := by
  refine ⟨?_, ?_, Node.errors_ne_nil_iff h, fun hposition => ?_, fun limit => ?_⟩
  · rw [Node.errors_eq]
    exact Traversal.runs errorRule f.root
  · simpa [Node.isBroken] using f.root.listsInOrder_errors
  · exact (Node.pairwise_errors hposition).imp fun hle =>
      ⟨hle, Node.pointAt_le_pointAt f.source hle⟩
  · refine ⟨_, _, (List.take_append_drop limit _).symm, List.length_take, ?_, ?_⟩
    · rw [ne_eq, List.drop_eq_nil_iff, Nat.not_le]
    · rw [f.describeErrors_eq, funext f.describeError_eq]

open Reader in
/-- A file with two classes: in the first one something cannot be parsed, where besides a name is
missing, and in the second one a brace is missing. -/
def brokenFile : SourceFile where
  path := .ofString "a.cs"
  source := Text.encode "class A\x7bvoid\x7d\nclass B\x7b"
  root := nodeAt "compilation_unit" none ⟨0, 22⟩
    [nodeAt "class_declaration" none ⟨0, 13⟩
      [leafAt "identifier" (some "name") ⟨6, 7⟩,
        nodeAt "declaration_list" (some "body") ⟨7, 13⟩
          [nodeAt "ERROR" none ⟨8, 12⟩
            [.mk { kind := "identifier", start := 12, stop := some 12, missing := true } []]]],
      nodeAt "class_declaration" none ⟨14, 22⟩
        [leafAt "identifier" (some "name") ⟨20, 21⟩,
          nodeAt "declaration_list" (some "body") ⟨21, 22⟩
            [.mk { kind := "\x7d", start := 22, stop := some 22, named := false,
                   missing := true } []]]]

theorem nested_brokenFile : brokenFile.root.Nested := by
  refine ⟨?_, ?_, ?_⟩ <;> decide +kernel

theorem syntax_errors_reported_brokenFile :
    brokenFile.root.MarksErrors ∧ brokenFile.root.InPosition ∧
      brokenFile.root.errors ≠ [] ∧
      (brokenFile.root.errors.Pairwise fun m n => m.label.start ≤ n.label.start) ∧
      (∃ listed rest, brokenFile.root.errors = listed ++ rest ∧ listed.length = 1 ∧ rest ≠ []) ∧
      brokenFile.describeErrors 1 = "1:9 error (+1 more)" := by
  have hmarks : brokenFile.root.MarksErrors := by decide +kernel
  have hposition := nested_brokenFile.inPosition
  have htwo : brokenFile.root.errors.length = 2 := by decide +kernel
  obtain ⟨-, -, herrors, hsorted, hdescribed⟩ := syntax_errors_reported brokenFile hmarks
  obtain ⟨listed, rest, hall, hlisted, hrest, -⟩ := hdescribed 1
  rw [htwo] at hlisted hrest
  exact ⟨hmarks, hposition, herrors.2 (by decide +kernel), (hsorted hposition).imp And.left,
    ⟨listed, rest, hall, hlisted, hrest.2 (by decide)⟩, by decide +kernel⟩

end Disposal
