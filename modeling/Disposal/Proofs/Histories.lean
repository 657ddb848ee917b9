import Disposal.Proofs.Closure
import Disposal.TypeGraph
import Mathlib.Data.List.Induction

/-!
# Histories of type graphs

A type graph is built by edits, one after the other.  Its three parts take an edit differently: a
type replaces what was known under its name, members are put behind those that are there, and a
binding keeps the name of its type and not the type.  So each answer is told by a part of the
edits alone.

* `Edit` is one edit, `TypeGraph.built` the graph that a list of edits gives;
* `Edit.additions` are the edits that add under a name, `Edit.bindings` those that bind a node;
* `TypeGraph.get?_built`, `TypeGraph.membersOf_built` and `TypeGraph.lookup_bindings_built` read
  the three parts off these histories;
* `TypeGraph.provider_eq_of_sameHistories`: edits with the same histories build graphs that answer
  alike, whatever is asked.

The main statement puts the answers together with what may be reordered.
-/

namespace Disposal

/-- One step in building a type graph. -/
inductive Edit (ν : Type) where
  | addType (t : TypeSymbol) (members : List MemberSymbol)
  | addMember (t : TypeSymbol) (m : MemberSymbol)
  | bindNode (node : ν) (t : TypeSymbol)
  deriving Repr

namespace Edit

variable {ν : Type}

/-- Make an edit. -/
def apply (g : TypeGraph ν) : Edit ν → TypeGraph ν
  | .addType t members => g.addType t members
  | .addMember t m => g.addMember t m
  | .bindNode node t => g.bindNode node t

/-- The qualified name that an edit concerns. -/
def name : Edit ν → String
  | .addType t _ | .addMember t _ | .bindNode _ t => t.qualifiedName

/-- The node that an edit concerns, if it is a binding. -/
def node? : Edit ν → Option ν
  | .addType .. | .addMember .. => none
  | .bindNode node _ => some node

/-- The type that an edit makes known. -/
def type? : Edit ν → Option TypeSymbol
  | .addType t _ => some t
  | .addMember .. | .bindNode .. => none

/-- The members that an edit adds. -/
def members : Edit ν → List MemberSymbol
  | .addType _ members => members
  | .addMember _ m => [m]
  | .bindNode .. => []

/-- Whether an edit adds a type or members under a name. -/
def addsTo (q : String) : Edit ν → Bool
  | .addType t _ | .addMember t _ => t.qualifiedName == q
  | .bindNode .. => false

/-! ### Histories -/

/-- The edits that add under a name, in their order. -/
def additions (edits : List (Edit ν)) (q : String) : List (Edit ν) :=
  edits.filter (addsTo q)

theorem name_of_addsTo {q : String} {e : Edit ν} (h : e.addsTo q = true) : e.name = q := by
  cases e with
  | addType t members => exact beq_iff_eq.1 h
  | addMember t m => exact beq_iff_eq.1 h
  | bindNode node t => cases h

theorem qualifiedName_of_type? {e : Edit ν} {t : TypeSymbol} (h : e.type? = some t) :
    t.qualifiedName = e.name := by
  cases e with
  | addType u members => exact congrArg TypeSymbol.qualifiedName (Option.some.inj h).symm
  | addMember u m => cases h
  | bindNode node u => cases h

theorem filter_concat (p : Edit ν → Bool) (edits : List (Edit ν)) (e : Edit ν) :
    (edits ++ [e]).filter p = edits.filter p ++ if p e then [e] else [] := by
  rw [List.filter_append, List.filter_cons, List.filter_nil]

/-- Filtering does not see the order of two neighbours of which it keeps one at most. -/
theorem filter_swap {p : Edit ν → Bool} {a b : Edit ν} (h : p a = true → p b = false)
    (before after : List (Edit ν)) :
    (before ++ a :: b :: after).filter p = (before ++ b :: a :: after).filter p := by
  rw [List.filter_append, List.filter_append]
  by_cases ha : p a = true
  · rw [List.filter_cons_of_pos ha, List.filter_cons_of_neg (by simp [h ha]),
      List.filter_cons_of_neg (by simp [h ha]), List.filter_cons_of_pos ha]
  · rw [List.filter_cons_of_neg ha, List.filter_cons, List.filter_cons,
      List.filter_cons_of_neg ha]

theorem additions_concat (edits : List (Edit ν)) (e : Edit ν) (q : String) :
    additions (edits ++ [e]) q = additions edits q ++ if e.addsTo q then [e] else [] :=
  filter_concat (addsTo q) edits e

section Nodes

variable [BEq ν]

/-- Whether an edit binds a node. -/
def binds (node : ν) : Edit ν → Bool
  | .addType .. | .addMember .. => false
  | .bindNode n _ => node == n

/-- The edits that bind a node, in their order. -/
def bindings (edits : List (Edit ν)) (node : ν) : List (Edit ν) :=
  edits.filter (binds node)

theorem bindings_concat (edits : List (Edit ν)) (e : Edit ν) (node : ν) :
    bindings (edits ++ [e]) node = bindings edits node ++ if e.binds node then [e] else [] :=
  filter_concat (binds node) edits e

/-! ### Edits in another order -/

/-- Two edits that concern different names and no common node. -/
structure Apart (a b : Edit ν) : Prop where
  name : a.name ≠ b.name
  node : ∀ n ∈ a.node?, ∀ n' ∈ b.node?, (n == n') = false

/-- Edits that add the same under every name and bind every node alike, each in the same order. -/
structure SameHistories (edits others : List (Edit ν)) : Prop where
  additions : ∀ q, additions edits q = additions others q
  bindings : ∀ node, bindings edits node = bindings others node

theorem Apart.not_addsTo {a b : Edit ν} (h : a.Apart b) (q : String) (ha : a.addsTo q = true) :
    b.addsTo q = false := by
  rw [Bool.eq_false_iff]
  intro hb
  exact h.name ((name_of_addsTo ha).trans (name_of_addsTo hb).symm)

theorem mem_node?_of_binds {node : ν} {e : Edit ν} (h : e.binds node = true) :
    ∃ n ∈ e.node?, (node == n) = true := by
  cases e with
  | addType t members => cases h
  | addMember t m => cases h
  | bindNode n t => exact ⟨n, rfl, h⟩

theorem Apart.not_binds [EquivBEq ν] {a b : Edit ν} (h : a.Apart b) (node : ν)
    (ha : a.binds node = true) : b.binds node = false := by
  rw [Bool.eq_false_iff]
  intro hb
  obtain ⟨n, hn, hnode⟩ := mem_node?_of_binds ha
  obtain ⟨n', hn', hnode'⟩ := mem_node?_of_binds hb
  -- equality of nodes need not be identity, but it is an equivalence
  have hsame : (n == n') = true := PartialEquivBEq.trans (PartialEquivBEq.symm hnode) hnode'
  rw [h.node n hn n' hn'] at hsame
  cases hsame

theorem Apart.sameHistories [EquivBEq ν] {a b : Edit ν} (h : a.Apart b)
    (before after : List (Edit ν)) :
    SameHistories (before ++ a :: b :: after) (before ++ b :: a :: after) where
  additions q := filter_swap (h.not_addsTo q) before after
  bindings node := filter_swap (h.not_binds node) before after

end Nodes

end Edit

namespace TypeGraph

variable {ν : Type}

/-! ### What one edit changes -/

theorem foldl_addMember (g : TypeGraph ν) (t : TypeSymbol) (members : List MemberSymbol) :
    members.foldl (fun g m => g.addMember t m) g =
      { g with
        memberLog := (members.map fun m => (t.qualifiedName, m)).reverse ++ g.memberLog } := by
  induction members generalizing g with
  | nil => rfl
  | cons m members ih =>
    rw [List.foldl_cons, ih, List.map_cons, List.reverse_cons, List.append_assoc]
    rfl

theorem types_addType (g : TypeGraph ν) (t : TypeSymbol) (members : List MemberSymbol) :
    (g.addType t members).types = (t.qualifiedName, t) :: g.types := by
  rw [addType, foldl_addMember]

theorem bindings_addType (g : TypeGraph ν) (t : TypeSymbol) (members : List MemberSymbol) :
    (g.addType t members).bindings = g.bindings := by
  rw [addType, foldl_addMember]

theorem membersOf_addMember (g : TypeGraph ν) (t : TypeSymbol) (m : MemberSymbol) (q : String) :
    (g.addMember t m).membersOf q =
      g.membersOf q ++ if t.qualifiedName == q then [m] else [] := by
  simp only [membersOf, addMember, List.filter_cons]
  split <;> simp

theorem membersOf_addType (g : TypeGraph ν) (t : TypeSymbol) (members : List MemberSymbol)
    (q : String) :
    (g.addType t members).membersOf q =
      g.membersOf q ++ if t.qualifiedName == q then members else [] := by
  rw [addType]
  induction members using List.reverseRecOn with
  | nil => simp [membersOf]
  | append_singleton members m ih =>
    rw [List.foldl_append, List.foldl_cons, List.foldl_nil, membersOf_addMember, ih]
    split <;> simp

/-- A type is known from then on, in place of what was known under its name. -/
theorem get?_apply (g : TypeGraph ν) (e : Edit ν) (q : String) :
    (e.apply g).types.get? q =
      (if e.addsTo q then e.type? else none).or (g.types.get? q) := by
  cases e with
  | addType t members =>
    rw [Edit.apply, types_addType, TypeTable.get?, List.lookup_cons, Edit.addsTo, Edit.type?,
      BEq.comm]
    cases t.qualifiedName == q <;> rfl
  | addMember t m => simp [Edit.apply, addMember, Edit.type?]
  | bindNode node t => rfl

/-- Members come behind those that are there. -/
theorem membersOf_apply (g : TypeGraph ν) (e : Edit ν) (q : String) :
    (e.apply g).membersOf q = g.membersOf q ++ if e.addsTo q then e.members else [] := by
  cases e with
  | addType t members => exact membersOf_addType g t members q
  | addMember t m => exact membersOf_addMember g t m q
  | bindNode node t => exact (List.append_nil _).symm

/-- A binding takes the place of an earlier one. -/
theorem lookup_bindings_apply [BEq ν] (g : TypeGraph ν) (e : Edit ν) (node : ν) :
    (e.apply g).bindings.lookup node =
      if e.binds node then some e.name else g.bindings.lookup node := by
  cases e with
  | addType t members => exact congrArg (List.lookup node) (bindings_addType g t members)
  | addMember t m => rfl
  | bindNode n t =>
    rw [Edit.apply, bindNode, List.lookup_cons, Edit.binds, Edit.name]
    cases node == n <;> rfl

/-! ### What all edits give -/

/-- The graph that a list of edits builds. -/
def built (edits : List (Edit ν)) : TypeGraph ν := edits.foldl Edit.apply {}

theorem built_concat (edits : List (Edit ν)) (e : Edit ν) :
    built (edits ++ [e]) = e.apply (built edits) := by
  rw [built, List.foldl_append]
  rfl

/-- **The type known under a name** is the last one that was added under it. -/
theorem get?_built (edits : List (Edit ν)) (q : String) :
    (built edits).types.get? q = ((Edit.additions edits q).filterMap Edit.type?).getLast? := by
  induction edits using List.reverseRecOn with
  | nil => rfl
  | append_singleton edits e ih =>
    rw [built_concat, get?_apply, ih, Edit.additions_concat, List.filterMap_append,
      List.getLast?_append]
    congr 1
    split
    · cases h : e.type? <;> simp [h]
    · rfl

/-- **The members of a name** are all that were ever added under it. -/
theorem membersOf_built (edits : List (Edit ν)) (q : String) :
    (built edits).membersOf q = (Edit.additions edits q).flatMap Edit.members := by
  induction edits using List.reverseRecOn with
  | nil => rfl
  | append_singleton edits e ih =>
    rw [built_concat, membersOf_apply, ih, Edit.additions_concat, List.flatMap_append]
    congr 1
    split
    · rw [List.flatMap_singleton]
    · rfl

/-- **A node is bound** to the name of the type that it was bound to last. -/
theorem lookup_bindings_built [BEq ν] (edits : List (Edit ν)) (node : ν) :
    (built edits).bindings.lookup node = (Edit.bindings edits node).getLast?.map Edit.name := by
  induction edits using List.reverseRecOn with
  | nil => rfl
  | append_singleton edits e ih =>
    rw [built_concat, lookup_bindings_apply, ih, Edit.bindings_concat]
    split
    · rw [List.getLast?_concat, Option.map_some]
    · rw [List.append_nil]

theorem qualifiedName_of_get?_built {edits : List (Edit ν)} {q : String} {t : TypeSymbol}
    (h : (built edits).types.get? q = some t) : t.qualifiedName = q := by
  rw [get?_built] at h
  obtain ⟨e, he, ht⟩ := List.mem_filterMap.1 (List.mem_of_getLast? h)
  rw [Edit.qualifiedName_of_type? ht]
  exact Edit.name_of_addsTo (List.mem_filter.1 he).2

/-! ### The answers -/

/-- Graphs that find the same types, members and bindings answer everything alike. -/
theorem provider_congr [BEq ν] {g other : TypeGraph ν}
    (htypes : ∀ q, g.types.get? q = other.types.get? q)
    (hmembers : ∀ q, g.membersOf q = other.membersOf q)
    (hbindings : ∀ node, g.bindings.lookup node = other.bindings.lookup node) :
    g.provider = other.provider := by
  have hget : g.types.get? = other.types.get? := funext htypes
  rw [provider, provider, Provider.mk.injEq]
  refine ⟨?_, hget, ?_, ?_⟩
  · funext node
    rw [hbindings, hget]
  · funext t
    exact hmembers t.qualifiedName
  · -- the tables themselves may differ in entries that no name finds
    funext t
    exact TypeTable.interfaces_congr htypes t

/-- **Answers depend on the histories alone**: edits of different names and nodes may come in any
order. -/
theorem provider_eq_of_sameHistories [BEq ν] {edits others : List (Edit ν)}
    (h : Edit.SameHistories edits others) : (built edits).provider = (built others).provider := by
  apply provider_congr
  · intro q
    rw [get?_built, get?_built, h.additions]
  · intro q
    rw [membersOf_built, membersOf_built, h.additions]
  · intro node
    rw [lookup_bindings_built, lookup_bindings_built, h.bindings]

/-- **A graph answers by its histories.**  A name finds the type added last under it, which bears
that name; a type has all members ever added under its name, in their order; a node declares what
its last type's name finds in the end, not what it found when the node was bound.  Edits that add
the same under every name and bind every node alike give the same answers, and two neighbours
that concern different names and nodes may be swapped. -/
theorem answers_follow_histories [BEq ν] [EquivBEq ν] (edits : List (Edit ν)) :
    (∀ q, (built edits).provider.typeNamed? q =
        ((Edit.additions edits q).filterMap Edit.type?).getLast? ∧
      ∀ t, (built edits).provider.typeNamed? q = some t → t.qualifiedName = q) ∧
    (∀ t, (built edits).provider.members t =
      (Edit.additions edits t.qualifiedName).flatMap Edit.members) ∧
    (∀ node, (built edits).provider.declaration? node =
      (Edit.bindings edits node).getLast?.bind fun e =>
        (built edits).provider.typeNamed? e.name) ∧
    (∀ others, Edit.SameHistories edits others →
      (built others).provider = (built edits).provider) ∧
    ∀ before a b after, edits = before ++ a :: b :: after → a.Apart b →
      (built (before ++ b :: a :: after)).provider = (built edits).provider := by
  refine ⟨fun q => ⟨get?_built edits q, fun t ht => qualifiedName_of_get?_built ht⟩,
    fun t => membersOf_built edits t.qualifiedName, fun node => ?_,
    fun others h => (provider_eq_of_sameHistories h).symm, ?_⟩
  · -- the binding gives a name, and the types are those known in the end
    show ((built edits).bindings.lookup node).bind (built edits).types.get? = _
    rw [lookup_bindings_built, Option.bind_map]
    rfl
  · rintro before a b after rfl hapart
    exact (provider_eq_of_sameHistories (hapart.sameHistories before after)).symm

/-- A class that is known without bases at first. -/
def firstClass : TypeSymbol := { name := "A", namespaceName := "N" }

/-- The class that takes its place. -/
def laterClass : TypeSymbol := { firstClass with baseNames := ["N.I"], isPartial := true }

/-- An interface of the later class. -/
def knownInterface : TypeSymbol := { name := "I", namespaceName := "N", kind := .interfaceType }

/-- A class that gets a member and a node before it is known and is replaced afterwards. -/
def rebuiltClass : List (Edit String) :=
  [.addMember firstClass { name := "x", kind := .field }, .bindNode "a" firstClass,
    .addType firstClass [{ name := "y", kind := .field }], .addType knownInterface [],
    .addType laterClass [{ name := "z", kind := .field }, { name := "x", kind := .field }]]

/-- The same with the node bound last. -/
def boundLast : List (Edit String) :=
  [.addMember firstClass { name := "x", kind := .field },
    .addType firstClass [{ name := "y", kind := .field }], .addType knownInterface [],
    .addType laterClass [{ name := "z", kind := .field }, { name := "x", kind := .field }],
    .bindNode "a" firstClass]

theorem answers_follow_histories_rebuiltClass :
    (built rebuiltClass).provider.typeNamed? "N.A" = some laterClass ∧
      laterClass.qualifiedName = "N.A" ∧
      ((built rebuiltClass).provider.members firstClass).map MemberSymbol.name =
        ["x", "y", "z", "x"] ∧
      (built rebuiltClass).provider.declaration? "a" = some laterClass ∧
      (built rebuiltClass).provider.declaration? "b" = none ∧
      Edit.SameHistories rebuiltClass boundLast ∧
      (built boundLast).provider = (built rebuiltClass).provider ∧
      (Edit.addType firstClass [{ name := "y", kind := .field }] : Edit String).Apart
        (.addType knownInterface []) ∧
      (built (rebuiltClass.take 2 ++ .addType knownInterface [] ::
        .addType firstClass [{ name := "y", kind := .field }] :: rebuiltClass.drop 4)).provider =
          (built rebuiltClass).provider := by
  have hsame : Edit.SameHistories rebuiltClass boundLast := ⟨fun _ => rfl, fun _ => rfl⟩
  have hapart : (Edit.addType firstClass [{ name := "y", kind := .field }] : Edit String).Apart
      (.addType knownInterface []) := ⟨by decide, by decide⟩
  obtain ⟨htypes, hmembers, hnodes, hsameAnswers, hswap⟩ := answers_follow_histories rebuiltClass
  have htype : (built rebuiltClass).provider.typeNamed? "N.A" = some laterClass :=
    (htypes "N.A").1.trans (by decide)
  refine ⟨htype, (htypes "N.A").2 _ htype, ?_, ?_, ?_, hsame, hsameAnswers _ hsame, hapart,
    hswap _ _ _ _ rfl hapart⟩
  · rw [hmembers]
    decide
  · rw [hnodes]
    exact htype
  · rw [hnodes]
    decide

end TypeGraph

end Disposal
