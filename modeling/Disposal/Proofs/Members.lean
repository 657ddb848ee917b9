import Disposal.Declaration
import Mathlib.Data.List.Basic
import Mathlib.Tactic.Tauto

/-!
# What is read from members and modifiers

The members of a type and its accessibility are read off single nodes.  Here they are told by the
kinds, the fields and the texts of these nodes.

* `Accessibility.ofModifiers_eq` is the accessibility that some modifiers stand for;
* `MemberDecl.mem_ofNode_iff` says which members a node declares: `MemberDecl.IsVariable`,
  `MemberDecl.IsProperty` and `MemberDecl.IsMethod` say what is read of each of them.
-/

namespace Disposal

/-! ### Modifiers -/

namespace Accessibility

variable {modifiers : List String}

theorem ofKeyword?_eq_some {s : String} {a : Accessibility} : ofKeyword? s = some a ↔
    s = "public" ∧ a = .publicAccess ∨ s = "internal" ∧ a = .internalAccess ∨
      s = "protected" ∧ a = .protectedAccess ∨ s = "private" ∧ a = .privateAccess := by
  unfold ofKeyword?
  split
  · simp [eq_comm]
  · simp [eq_comm]
  · simp [eq_comm]
  · simp [eq_comm]
  · rename_i hpublic hinternal hprotected hprivate
    refine iff_of_false (fun h => Option.some_ne_none a h.symm) ?_
    rintro (h | h | h | h)
    · exact hpublic h.1
    · exact hinternal h.1
    · exact hprotected h.1
    · exact hprivate h.1

/-- The access keywords among the modifiers of a declaration. -/
theorem mem_filterMap_ofKeyword? {a : Accessibility} : a ∈ modifiers.filterMap ofKeyword? ↔
    "public" ∈ modifiers ∧ a = .publicAccess ∨ "internal" ∈ modifiers ∧ a = .internalAccess ∨
      "protected" ∈ modifiers ∧ a = .protectedAccess ∨
      "private" ∈ modifiers ∧ a = .privateAccess := by
  simp only [List.mem_filterMap, ofKeyword?_eq_some, and_or_left, exists_or]
  simp only [← and_assoc, exists_and_right, exists_eq_right]

/-- **The accessibility that modifiers stand for**: two keywords that are read together if no other
is there, or else the first keyword. -/
theorem ofModifiers_eq (modifiers : List String) : ofModifiers modifiers =
    if "protected" ∈ modifiers ∧ "internal" ∈ modifiers ∧ "public" ∉ modifiers ∧
      "private" ∉ modifiers then .protectedInternal
    else if "private" ∈ modifiers ∧ "protected" ∈ modifiers ∧ "public" ∉ modifiers ∧
      "internal" ∉ modifiers then .privateProtected
    else (modifiers.findSome? ofKeyword?).getD .unspecified := by
  have hfirst : (modifiers.filterMap ofKeyword?).headD .unspecified =
      (modifiers.findSome? ofKeyword?).getD .unspecified := by
    rw [List.headD_eq_head?_getD, List.head?_filterMap]
  have hpair : ∀ a b : Accessibility, ((modifiers.filterMap ofKeyword?).contains a &&
      (modifiers.filterMap ofKeyword?).contains b &&
      (modifiers.filterMap ofKeyword?).all fun x => x == a || x == b) = true ↔
        a ∈ modifiers.filterMap ofKeyword? ∧ b ∈ modifiers.filterMap ofKeyword? ∧
          ∀ x ∈ modifiers.filterMap ofKeyword?, x = a ∨ x = b := by
    intro a b
    simp only [Bool.and_eq_true, List.contains_iff_mem, List.all_eq_true, Bool.or_eq_true,
      beq_iff_eq, and_assoc]
  rw [ofModifiers, hfirst]
  refine if_congr ((hpair _ _).trans ?_) rfl (if_congr ((hpair _ _).trans ?_) rfl rfl)
  · simp only [mem_filterMap_ofKeyword?, reduceCtorEq, and_false, and_true, false_or, or_false]
    refine and_congr_right fun _ => and_congr_right fun _ => ?_
    simp [or_imp, forall_and]
  · simp only [mem_filterMap_ofKeyword?, reduceCtorEq, and_false, and_true, false_or, or_false]
    refine and_congr_right fun _ => and_congr_right fun _ => ?_
    simp [or_imp, forall_and]

end Accessibility

/-! ### Members -/

namespace MemberDecl

variable {f : SourceFile} {n : Node} {m : MemberDecl}

/-- A declarator of the first variable declaration below a node gives a name and, if types are read,
the type that stands in this declaration. -/
def IsVariable (f : SourceFile) (n : Node) (m : MemberDecl) : Prop :=
  ∃ declared d name, n.childOfKind? "variable_declaration" = some declared ∧
    d ∈ declared.children ∧ d.kind = "variable_declarator" ∧
    (d.childInField? "name").or (d.childOfKind? "identifier") = some name ∧
    m.name = name.name f.source ∧
    m.writtenType = (if m.kind = .field then
      (declared.childInField? "type").map fun t => t.name f.source else none) ∧
    m.parameterCount = 0 ∧ m.typeParameterCount = 0 ∧ m.returnsVoid = false

/-- A node gives the name and the type of a property. -/
def IsProperty (f : SourceFile) (n : Node) (m : MemberDecl) : Prop :=
  (∃ name, n.childInField? "name" = some name ∧ m.name = name.name f.source) ∧
    m.writtenType = (n.childInField? "type").map (fun t => t.name f.source) ∧
    m.parameterCount = 0 ∧ m.typeParameterCount = 0 ∧ m.returnsVoid = false

/-- A node gives the name of a method, its parameters and type parameters, and whether `void` is
what it returns. -/
def IsMethod (f : SourceFile) (n : Node) (m : MemberDecl) : Prop :=
  (∃ name, n.childInField? "name" = some name ∧ m.name = name.name f.source) ∧
    m.writtenType = none ∧
    m.parameterCount = countChildren ["parameter", "parameter_array"]
      ((n.childInField? "parameters").or (n.childOfKind? "parameter_list")) ∧
    m.typeParameterCount = countChildren ["type_parameter"]
      ((n.childInField? "type_parameters").or (n.childOfKind? "type_parameter_list")) ∧
    (m.returnsVoid = true ↔ ∃ r, (n.childInField? "returns").or (n.childInField? "type") = some r ∧
      r.name f.source = "void")

theorem mem_ofVariables_iff {kind : MemberKind} {isStatic : Bool} :
    m ∈ ofVariables f n kind isStatic ↔ m.location = some (f.locate n) ∧ m.isStatic = isStatic ∧
      m.kind = kind ∧ m.IsVariable f n := by
  rw [ofVariables]
  cases hdeclared : n.childOfKind? "variable_declaration" with
  | none => simp [IsVariable, hdeclared]
  | some declared =>
    simp only [declaratorNames, List.mem_map, List.mem_filterMap, List.mem_filter, beq_iff_eq,
      Option.map_eq_some_iff, IsVariable, hdeclared, Option.some.injEq]
    constructor
    · rintro ⟨_, ⟨d, ⟨hd, hkind⟩, name, hname, rfl⟩, rfl⟩
      exact ⟨rfl, rfl, rfl, declared, d, name, rfl, hd, hkind, by simpa using hname, rfl, rfl, rfl,
        rfl, rfl⟩
    · rintro ⟨hlocation, hstatic, hkind, declared, d, name, rfl, hd, hdeclarator, hname, hnamed,
        hwritten, hparameters, htypes, hvoid⟩
      refine ⟨_, ⟨d, ⟨hd, hdeclarator⟩, name, by simpa using hname, rfl⟩, ?_⟩
      obtain ⟨mname, mkind, mparameters, mtypes, mvoid, mwritten, mstatic, mlocation⟩ := m
      subst hlocation hstatic hkind hnamed hparameters htypes hvoid
      exact MemberDecl.mk.injEq .. ▸ ⟨rfl, rfl, rfl, rfl, rfl, hwritten.symm, rfl, rfl⟩

theorem mem_ofProperty_iff {isStatic : Bool} :
    m ∈ ofProperty f n isStatic ↔ m.location = some (f.locate n) ∧ m.isStatic = isStatic ∧
      m.kind = .property ∧ m.IsProperty f n := by
  rw [ofProperty]
  cases hname : n.childInField? "name" with
  | none => simp [IsProperty, hname]
  | some name =>
    simp only [List.mem_singleton, IsProperty, hname, Option.some.injEq, exists_eq_left']
    obtain ⟨mname, mkind, mparameters, mtypes, mvoid, mwritten, mstatic, mlocation⟩ := m
    simp only [MemberDecl.mk.injEq]
    tauto

theorem mem_ofMethod_iff {isStatic : Bool} :
    m ∈ ofMethod f n isStatic ↔ m.location = some (f.locate n) ∧ m.isStatic = isStatic ∧
      m.kind = .method ∧ m.IsMethod f n := by
  have hvoid : (((n.childInField? "returns").or (n.childInField? "type")).any fun r =>
      r.name f.source == "void") = true ↔ ∃ r,
        (n.childInField? "returns").or (n.childInField? "type") = some r ∧
          r.name f.source = "void" := by
    simp only [Option.any_eq_true, beq_iff_eq]
  rw [ofMethod]
  cases hname : n.childInField? "name" with
  | none => simp [IsMethod, hname]
  | some name =>
    simp only [List.mem_singleton, IsMethod, hname, Option.some.injEq, exists_eq_left', ← hvoid,
      ← Bool.eq_iff_iff]
    obtain ⟨mname, mkind, mparameters, mtypes, mvoid, mwritten, mstatic, mlocation⟩ := m
    simp only [MemberDecl.mk.injEq, Option.orElse_eq_or]
    tauto

theorem isStatic_iff : ((n.modifiers f.source).contains "static" ||
    (n.modifiers f.source).contains "const") = true ↔ ∃ c ∈ n.children, c.kind = "modifier" ∧
      (Text.trim (c.text f.source) = "static" ∨ Text.trim (c.text f.source) = "const") := by
  simp only [Node.modifiers, Bool.or_eq_true, List.contains_iff_mem, List.mem_map, List.mem_filter,
    beq_iff_eq, and_assoc, ← exists_or, ← and_or_left]

/-- **The members that a node declares**, by the kind of the node: each has the place of the node,
and is static if a modifier is `static` or `const`. -/
theorem mem_ofNode_iff : m ∈ ofNode f n ↔ m.location = some (f.locate n) ∧
    (m.isStatic = true ↔ ∃ c ∈ n.children, c.kind = "modifier" ∧
      (Text.trim (c.text f.source) = "static" ∨ Text.trim (c.text f.source) = "const")) ∧
    (n.kind = "field_declaration" ∧ m.kind = .field ∧ m.IsVariable f n ∨
      n.kind = "event_field_declaration" ∧ m.kind = .event ∧ m.IsVariable f n ∨
      n.kind = "property_declaration" ∧ m.kind = .property ∧ m.IsProperty f n ∨
      n.kind = "method_declaration" ∧ m.kind = .method ∧ m.IsMethod f n) := by
  rw [← isStatic_iff, ← Bool.eq_iff_iff]
  by_cases hfield : n.kind = "field_declaration"
  · simp [ofNode, hfield, mem_ofVariables_iff]
  by_cases hevent : n.kind = "event_field_declaration"
  · simp [ofNode, hevent, mem_ofVariables_iff]
  by_cases hproperty : n.kind = "property_declaration"
  · simp [ofNode, hproperty, mem_ofProperty_iff]
  by_cases hmethod : n.kind = "method_declaration"
  · simp [ofNode, hmethod, mem_ofMethod_iff]
  simp [ofNode, hfield, hevent, hproperty, hmethod]

theorem countChildren_eq_zero {kinds : List String} {parent : Option Node} :
    countChildren kinds parent = 0 ↔
      ∀ p, parent = some p → ∀ c ∈ p.namedChildren, c.kind ∉ kinds := by
  cases parent with
  | none => simp [countChildren]
  | some p => simp [countChildren, List.countP_eq_zero]

/-- A member has the place of the node that declares it, and the name of a node. -/
theorem exists_name_of_mem (h : m ∈ ofNode f n) :
    m.location = some (f.locate n) ∧ ∃ name : Node, m.name = name.name f.source := by
  obtain ⟨hlocation, -, h⟩ := mem_ofNode_iff.1 h
  refine ⟨hlocation, ?_⟩
  rcases h with ⟨-, -, h⟩ | ⟨-, -, h⟩ | ⟨-, -, h⟩ | ⟨-, -, h⟩
  · obtain ⟨_, _, name, -, -, -, -, hname, -⟩ := h
    exact ⟨name, hname⟩
  · obtain ⟨_, _, name, -, -, -, -, hname, -⟩ := h
    exact ⟨name, hname⟩
  · obtain ⟨name, -, hname⟩ := h.1
    exact ⟨name, hname⟩
  · obtain ⟨name, -, hname⟩ := h.1
    exact ⟨name, hname⟩

theorem typeKind?_of_mem (h : m ∈ ofNode f n) : n.typeKind? = none := by
  obtain ⟨-, -, h⟩ := mem_ofNode_iff.1 h
  rcases h with ⟨hkind, -⟩ | ⟨hkind, -⟩ | ⟨hkind, -⟩ | ⟨hkind, -⟩
  all_goals simp [Node.typeKind?, hkind]

end MemberDecl

end Disposal
