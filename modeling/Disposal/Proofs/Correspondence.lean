import Disposal.Candidate
import Disposal.Proofs.Walk
import Mathlib.Data.List.Forall2

/-!
# Trees that are read alike

Two trees can differ in much that nobody reads.  If their nodes correspond, one by one and without
some children that nothing is read of, and the texts that are read agree, then the same is read of
both.

* `Correspondence` are the conditions on corresponding nodes;
* `Correspondence.modifiers_eq`, `Correspondence.baseEntries_eq`, `Correspondence.role_eq`,
  `Correspondence.ofNode_eq`: what is read from a node, and which members it declares;
* `Correspondence.body?`, `Correspondence.memberNodes`: bodies correspond, and what stands in them.
-/

namespace Disposal

open Declaration

/-! ### Lists related one by one -/

section

variable {α β γ : Type} {R : α → β → Prop} {xs : List α} {ys : List β}

theorem find?_forall₂ (h : List.Forall₂ R xs ys) {p : α → Bool} {q : β → Bool}
    (hpq : ∀ a b, R a b → p a = q b) : Option.Rel R (xs.find? p) (ys.find? q) := by
  induction h with
  | nil => exact .none
  | @cons a b xs ys hab _ ih =>
    rw [List.find?_cons, List.find?_cons, hpq a b hab]
    cases q b with
    | true => exact .some hab
    | false => exact ih

theorem filter_forall₂ (h : List.Forall₂ R xs ys) {p : α → Bool} {q : β → Bool}
    (hpq : ∀ a b, R a b → p a = q b) :
    List.Forall₂ (fun a b => p a = true ∧ R a b) (xs.filter p) (ys.filter q) := by
  have hiff : ∀ ⦃a b⦄, R a b → (p a = true ↔ q b = true) := fun a b hab => by rw [hpq a b hab]
  exact (List.forall₂_and_left _ _).2 ⟨fun a ha => (List.mem_filter.1 ha).2, List.rel_filter hiff h⟩

theorem map_eq_map_iff_forall₂ {g : α → γ} {k : β → γ} :
    xs.map g = ys.map k ↔ List.Forall₂ (fun a b => g a = k b) xs ys := by
  rw [← List.forall₂_eq_eq_eq, List.forall₂_map_left_iff, List.forall₂_map_right_iff]

theorem map_eq_of_forall₂ (h : List.Forall₂ R xs ys) {g : α → γ} {k : β → γ}
    (hgk : ∀ a b, R a b → g a = k b) : xs.map g = ys.map k :=
  map_eq_map_iff_forall₂.2 (h.imp hgk)

theorem filterMap_eq_of_forall₂ (h : List.Forall₂ R xs ys) {g : α → Option γ} {k : β → Option γ}
    (hgk : ∀ a b, R a b → g a = k b) : xs.filterMap g = ys.filterMap k := by
  induction h with
  | nil => rfl
  | @cons a b xs ys hab _ ih => rw [List.filterMap_cons, List.filterMap_cons, hgk a b hab, ih]

theorem flatMap_eq_of_forall₂ (h : List.Forall₂ R xs ys) {g : α → List γ} {k : β → List γ}
    (hgk : ∀ a b, R a b → g a = k b) : xs.flatMap g = ys.flatMap k := by
  rw [List.flatMap_def, List.flatMap_def, map_eq_of_forall₂ h hgk]

theorem exists_of_forall₂ (h : List.Forall₂ R xs ys) {a : α} (ha : a ∈ xs) : ∃ b ∈ ys, R a b := by
  induction h with
  | nil => cases ha
  | @cons x y xs ys hxy _ ih =>
    rcases List.mem_cons.1 ha with rfl | ha
    · exact ⟨y, List.mem_cons_self, hxy⟩
    · obtain ⟨b, hb, hab⟩ := ih ha
      exact ⟨b, List.mem_cons_of_mem _ hb, hab⟩

theorem elim_eq_of_rel {o : Option α} {o' : Option β} (h : Option.Rel R o o') (x : γ)
    {g : α → γ} {k : β → γ} (hgk : ∀ a b, o = some a → R a b → g a = k b) :
    o.elim x g = o'.elim x k := by
  cases h with
  | none => rfl
  | some hab => exact hgk _ _ rfl hab

theorem map_eq_of_rel {o : Option α} {o' : Option β} (h : Option.Rel R o o') {g : α → γ}
    {k : β → γ} (hgk : ∀ a b, o = some a → R a b → g a = k b) : o.map g = o'.map k := by
  cases h with
  | none => rfl
  | some hab => exact congrArg some (hgk _ _ rfl hab)

theorem orElse_rel {o p : Option α} {o' p' : Option β} (h : Option.Rel R o o')
    (hp : Option.Rel R p p') : Option.Rel R (o.orElse fun _ => p) (o'.orElse fun _ => p') := by
  cases h with
  | none => exact hp
  | some hab => exact .some hab

end

/-! ### Entries that are left out -/

section

variable {α β : Type} {keep p : α → Bool}

theorem find?_kept (h : ∀ a, keep a = false → p a = false) (xs : List α) :
    (xs.filter keep).find? p = xs.find? p := by
  rw [List.find?_filter]
  congr 1
  funext a
  cases ha : keep a with
  | true => simp
  | false => simp [h a ha]

theorem filter_kept (h : ∀ a, keep a = false → p a = false) (xs : List α) :
    (xs.filter keep).filter p = xs.filter p := by
  rw [List.filter_filter]
  refine List.filter_congr fun a _ => ?_
  cases ha : keep a with
  | true => simp
  | false => simp [h a ha]

/-- What the entries left out add nothing to is put together from the others. -/
theorem flatMap_kept {g : α → List β} (h : ∀ a, keep a = false → g a = []) (xs : List α) :
    (xs.filter keep).flatMap g = xs.flatMap g := by
  induction xs with
  | nil => rfl
  | cons a xs ih =>
    cases ha : keep a with
    | true => simp [ha, ih]
    | false => simp [ha, ih, h a ha]

end

/-! ### What is read -/

namespace Node

/-- Whether the text of a node below a node of kind `parent` is read without its blanks: that of a
name, of a type, and of an entry in a base list. -/
def isNaming (parent : String) (n : Node) : Bool :=
  [some "name", some "type", some "returns"].contains n.label.field ||
    (parent == "base_list" && n.isBaseEntry)

/-- The node that names a declarator. -/
def declarator? (n : Node) : Option Node :=
  (n.childInField? "name").orElse fun _ => n.childOfKind? "identifier"

/-- The kinds that are looked for. -/
def readKinds : List String :=
  ["using_directive", "namespace_declaration", "file_scoped_namespace_declaration",
    "class_declaration", "struct_declaration", "interface_declaration", "record_declaration",
    "record_struct_declaration", "enum_declaration", "declaration_list", "base_list", "modifier",
    "field_declaration", "event_field_declaration", "property_declaration", "method_declaration",
    "variable_declaration", "variable_declarator", "identifier", "parameter_list", "parameter",
    "parameter_array", "type_parameter_list", "type_parameter"]

/-- The fields that are looked for. -/
def readFields : List String :=
  ["name", "type", "returns", "body", "parameters", "type_parameters"]

/-- Nothing is read of a node: it is neither of a kind nor in a field that is looked for, and it is
no entry of a base list. -/
structure IsIgnored (n : Node) : Prop where
  kind : n.kind ∉ readKinds
  field : n.label.field ∉ readFields.map some
  entry : n.isBaseEntry = false

namespace IsIgnored

variable {n : Node}

theorem kind_beq (h : n.IsIgnored) {kind : String} (hkind : kind ∈ readKinds) :
    (n.kind == kind) = false := by
  rw [beq_eq_false_iff_ne]
  rintro rfl
  exact h.kind hkind

theorem field_beq (h : n.IsIgnored) {field : String} (hfield : field ∈ readFields) :
    (n.label.field == some field) = false := by
  rw [beq_eq_false_iff_ne]
  intro heq
  exact h.field (heq ▸ List.mem_map_of_mem hfield)

theorem typeKind?_eq (h : n.IsIgnored) : n.typeKind? = none := by
  have hkind := h.kind
  unfold typeKind?
  split <;> simp_all [readKinds]

theorem role_eq (h : n.IsIgnored) (source : Text.Bytes) : role source n = .other := by
  have hkind := h.kind
  have htype := h.typeKind?_eq
  unfold role
  split <;> simp_all [readKinds]

theorem ofNode_eq (h : n.IsIgnored) (f : SourceFile) : MemberDecl.ofNode f n = [] := by
  have hkind := h.kind
  unfold MemberDecl.ofNode
  split <;> simp_all [readKinds]

theorem isBody_eq (h : n.IsIgnored) (siblings : List Node) : isBody siblings n = false := by
  rw [isBody, h.field_beq (by decide), h.kind_beq (by decide), ite_self]

end IsIgnored

end Node

theorem scopeBehind_congr {source source' : Text.Bytes} {n n' : Node}
    (h : role source n = role source' n') (scope : Scope) :
    scopeBehind source scope n = scopeBehind source' scope n' := by
  rw [scopeBehind, scopeBehind, h]

/-- The member without its location. -/
def MemberDecl.unlocated (m : MemberDecl) : MemberDecl := { m with location := none }

/-- Nodes `n` and `n'` with `R p n n'`, which stand below nodes of kind `p` in two sources, are read
alike: they are of one kind and in one role, the texts that are read agree, and their children
correspond one by one, apart from those that are not to be kept, of which nothing is read. -/
structure Correspondence (source source' : Text.Bytes) (keep : Node → Bool)
    (R : String → Node → Node → Prop) : Prop where
  ignored : ∀ c, keep c = false → c.IsIgnored
  kind_eq : ∀ {p n n'}, R p n n' → n.kind = n'.kind
  field_eq : ∀ {p n n'}, R p n n' → n.label.field = n'.label.field
  named_eq : ∀ {p n n'}, R p n n' → n.label.named = n'.label.named
  children : ∀ {p n n'}, R p n n' →
    List.Forall₂ (R n.kind) (n.children.filter keep) (n'.children.filter keep)
  text_eq : ∀ {p n n'}, R p n n' → n.kind = "using_directive" → n.text source = n'.text source'
  trim_eq : ∀ {p n n'}, R p n n' → n.kind = "modifier" →
    Text.trim (n.text source) = Text.trim (n'.text source')
  name_eq : ∀ {p n n'}, R p n n' → n.isNaming p = true → n.name source = n'.name source'
  declared_eq : ∀ {p n n'}, R p n n' → n.kind = "variable_declarator" →
    (n.declarator?.map fun c => c.name source) = n'.declarator?.map fun c => c.name source'

namespace Correspondence

variable {source source' : Text.Bytes} {keep : Node → Bool} {R : String → Node → Node → Prop}
  (h : Correspondence source source' keep R) {p : String} {n n' : Node}

include h

theorem typeKind?_eq (hn : R p n n') : n.typeKind? = n'.typeKind? := by
  rw [Node.typeKind?, Node.typeKind?, h.kind_eq hn]

theorem isClass_eq (hn : R p n n') : n.isClass = n'.isClass := by
  rw [Node.isClass, Node.isClass, h.kind_eq hn]

/-! ### Children -/

theorem find?_rel (hn : R p n n') {t t' : Node → Bool} (ht : ∀ c : Node, c.IsIgnored → t c = false)
    (ht' : ∀ c : Node, c.IsIgnored → t' c = false) (htt' : ∀ a b, R n.kind a b → t a = t' b) :
    Option.Rel (R n.kind) (n.children.find? t) (n'.children.find? t') := by
  rw [← find?_kept fun c hc => ht c (h.ignored c hc),
    ← find?_kept fun c hc => ht' c (h.ignored c hc)]
  exact find?_forall₂ (h.children hn) htt'

theorem filter_forall₂ (hn : R p n n') {t t' : Node → Bool}
    (ht : ∀ c : Node, c.IsIgnored → t c = false) (ht' : ∀ c : Node, c.IsIgnored → t' c = false)
    (htt' : ∀ a b, R n.kind a b → t a = t' b) :
    List.Forall₂ (fun a b => t a = true ∧ R n.kind a b) (n.children.filter t)
      (n'.children.filter t') := by
  rw [← filter_kept fun c hc => ht c (h.ignored c hc),
    ← filter_kept fun c hc => ht' c (h.ignored c hc)]
  exact Disposal.filter_forall₂ (h.children hn) htt'

theorem childInField? (hn : R p n n') {field : String} (hfield : field ∈ Node.readFields) :
    Option.Rel (R n.kind) (n.childInField? field) (n'.childInField? field) := by
  have hignored : ∀ c : Node, c.IsIgnored → (c.label.field == some field) = false :=
    fun c hc => hc.field_beq hfield
  exact h.find?_rel hn hignored hignored fun a b hab => by rw [h.field_eq hab]

theorem filter_kind (hn : R p n n') {kind : String} (hkind : kind ∈ Node.readKinds) :
    List.Forall₂ (fun a b => (a.kind == kind) = true ∧ R n.kind a b)
      (n.children.filter fun c => c.kind == kind) (n'.children.filter fun c => c.kind == kind) := by
  have hignored : ∀ c : Node, c.IsIgnored → (c.kind == kind) = false :=
    fun c hc => hc.kind_beq hkind
  exact h.filter_forall₂ hn hignored hignored fun a b hab => by rw [h.kind_eq hab]

theorem childOfKind? (hn : R p n n') {kind : String} (hkind : kind ∈ Node.readKinds) :
    Option.Rel (R n.kind) (n.childOfKind? kind) (n'.childOfKind? kind) := by
  have hignored : ∀ c : Node, c.IsIgnored → (c.kind == kind) = false :=
    fun c hc => hc.kind_beq hkind
  exact h.find?_rel hn hignored hignored fun a b hab => by rw [h.kind_eq hab]

theorem nameInField_eq (hn : R p n n') (field : String)
    (hfield : field ∈ ["name", "type", "returns"]) :
    ((n.childInField? field).map fun c => c.name source) =
      (n'.childInField? field).map fun c => c.name source' := by
  have hread : field ∈ Node.readFields := List.mem_append_left ["body", "parameters", _] hfield
  refine map_eq_of_rel (h.childInField? hn hread) fun c c' hc hcc' => h.name_eq hcc' ?_
  have hfound : c.label.field = some field := by simpa using List.find?_some hc
  simp only [Node.isNaming, hfound, Bool.or_eq_true, List.contains_iff_mem]
  exact .inl (List.mem_map_of_mem (f := some) hfield)

theorem modifiers_eq (hn : R p n n') : n.modifiers source = n'.modifiers source' :=
  map_eq_of_forall₂ (h.filter_kind hn (by decide)) fun _ _ hab =>
    h.trim_eq hab.2 (by simpa using hab.1)

theorem baseEntries_eq (hn : R p n n') : n.baseEntries source = n'.baseEntries source' := by
  have helim : ∀ (source : Text.Bytes) (n : Node), n.baseEntries source =
      (n.childOfKind? "base_list").elim [] fun list =>
        (list.children.filter Node.isBaseEntry).map fun c => c.name source := by
    intro source n
    rw [Node.baseEntries]
    cases n.childOfKind? "base_list" <;> rfl
  have hignored : ∀ c : Node, c.IsIgnored → c.isBaseEntry = false := fun c hc => hc.entry
  rw [helim, helim]
  refine elim_eq_of_rel (h.childOfKind? hn (by decide)) [] fun list list' hlist hlists => ?_
  have hkind : list.kind = "base_list" := by simpa using List.find?_some hlist
  refine map_eq_of_forall₂ (h.filter_forall₂ hlists hignored hignored fun a b hab => ?_)
    fun a b hab => ?_
  · rw [Node.isBaseEntry, Node.isBaseEntry, h.named_eq hab, h.kind_eq hab]
  · exact h.name_eq hab.2 (by simp [Node.isNaming, hkind, hab.1])

theorem accepts_eq (hn : R p n n') (filter : Filter) :
    filter.accepts source n = filter.accepts source' n' := by
  cases filter <;> simp only [Filter.accepts, h.isClass_eq hn, h.baseEntries_eq hn]

theorem role_eq (hn : R p n n') : role source n = role source' n' := by
  have hname : ∀ role : String → Role,
      ((n.childInField? "name").map fun name => role (name.name source)) =
        (n'.childInField? "name").map fun name => role (name.name source') := by
    intro role
    have hmap := congrArg (Option.map role) (h.nameInField_eq hn "name" (by decide))
    simpa [Function.comp_def] using hmap
  have hkind := h.kind_eq hn
  unfold role
  -- the kinds decide which of the texts are read
  split
  · rename_i hdirective
    simp only [← hkind, hdirective, h.text_eq hn hdirective]
  · rename_i hblock
    simp only [← hkind, hblock, hname]
  · rename_i hfile
    simp only [← hkind, hfile, hname]
  · rename_i hn₁ hn₂ hn₃
    rw [h.typeKind?_eq hn]
    split
    · rename_i hn'; exact absurd (hkind.trans hn') hn₁
    · rename_i hn'; exact absurd (hkind.trans hn') hn₂
    · rename_i hn'; exact absurd (hkind.trans hn') hn₃
    · rfl

/-! ### Members -/

theorem declaratorNames_eq (hn : R p n n') :
    MemberDecl.declaratorNames source n = MemberDecl.declaratorNames source' n' :=
  filterMap_eq_of_forall₂ (h.filter_kind hn (by decide)) fun _ _ hab =>
    h.declared_eq hab.2 (by simpa using hab.1)

theorem countChildren_eq (kinds : List String) (hkinds : kinds ⊆ Node.readKinds)
    {o o' : Option Node} (ho : Option.Rel (R p) o o') :
    MemberDecl.countChildren kinds o = MemberDecl.countChildren kinds o' := by
  cases ho with
  | none => rfl
  | @some n n' hn =>
    have hignored : ∀ c : Node, c.IsIgnored → (kinds.contains c.kind && c.label.named) = false := by
      intro c hc
      have hkind : c.kind ∉ kinds := fun hmem => hc.kind (hkinds hmem)
      simp [hkind]
    have hlists := h.filter_forall₂ hn hignored hignored fun a b hab => by
      rw [h.kind_eq hab, h.named_eq hab]
    simp only [MemberDecl.countChildren, Node.namedChildren, List.countP_eq_length_filter,
      List.filter_filter]
    exact hlists.length_eq

end Correspondence

namespace Correspondence

open MemberDecl

variable {f f' : SourceFile} {keep : Node → Bool} {R : String → Node → Node → Prop}
  (h : Correspondence f.source f'.source keep R) {p : String} {n n' : Node}

include h

theorem ofVariables_eq (hn : R p n n') (kind : MemberKind) (isStatic : Bool) :
    (ofVariables f n kind isStatic).map unlocated =
      (ofVariables f' n' kind isStatic).map unlocated := by
  have helim : ∀ (f : SourceFile) (n : Node), (ofVariables f n kind isStatic).map unlocated =
      (n.childOfKind? "variable_declaration").elim [] fun declared =>
        (declaratorNames f.source declared).map fun name =>
          { name, kind, isStatic,
            writtenType := if kind = .field then
              (declared.childInField? "type").map fun t => t.name f.source else none } := by
    intro f n
    rw [ofVariables]
    cases n.childOfKind? "variable_declaration" with
    | none => rfl
    | some declared => simp [unlocated, Function.comp_def]
  rw [helim, helim]
  refine elim_eq_of_rel (h.childOfKind? hn (by decide)) [] fun declared declared' _ hdeclared => ?_
  rw [h.declaratorNames_eq hdeclared, h.nameInField_eq hdeclared "type" (by decide)]

theorem ofProperty_eq (hn : R p n n') (isStatic : Bool) :
    (ofProperty f n isStatic).map unlocated = (ofProperty f' n' isStatic).map unlocated := by
  have hmap : ∀ (f : SourceFile) (n : Node), (ofProperty f n isStatic).map unlocated =
      ((n.childInField? "name").map fun c => c.name f.source).elim [] fun name =>
        [{ name, isStatic, kind := .property,
           writtenType := (n.childInField? "type").map fun t => t.name f.source }] := by
    intro f n
    rw [ofProperty]
    cases n.childInField? "name" <;> rfl
  rw [hmap, hmap, h.nameInField_eq hn "name" (by decide), h.nameInField_eq hn "type" (by decide)]

theorem ofMethod_eq (hn : R p n n') (isStatic : Bool) :
    (ofMethod f n isStatic).map unlocated = (ofMethod f' n' isStatic).map unlocated := by
  have hmap : ∀ (f : SourceFile) (n : Node), (ofMethod f n isStatic).map unlocated =
      ((n.childInField? "name").map fun c => c.name f.source).elim [] fun name =>
        [{ name, isStatic, kind := .method
           parameterCount := countChildren ["parameter", "parameter_array"]
             ((n.childInField? "parameters").orElse fun _ => n.childOfKind? "parameter_list")
           typeParameterCount := countChildren ["type_parameter"]
             ((n.childInField? "type_parameters").orElse fun _ =>
               n.childOfKind? "type_parameter_list")
           returnsVoid :=
             (((n.childInField? "returns").map fun c => c.name f.source).orElse fun _ =>
               (n.childInField? "type").map fun c => c.name f.source).any (· == "void") }] := by
    intro f n
    rw [ofMethod]
    cases n.childInField? "name" with
    | none => rfl
    | some name => cases n.childInField? "returns" <;> cases n.childInField? "type" <;> rfl
  have hparameters := h.countChildren_eq ["parameter", "parameter_array"] (by decide)
    (orElse_rel (h.childInField? hn (show "parameters" ∈ Node.readFields by decide))
      (h.childOfKind? hn (show "parameter_list" ∈ Node.readKinds by decide)))
  have htypeParameters := h.countChildren_eq ["type_parameter"] (by decide)
    (orElse_rel (h.childInField? hn (show "type_parameters" ∈ Node.readFields by decide))
      (h.childOfKind? hn (show "type_parameter_list" ∈ Node.readKinds by decide)))
  rw [hmap, hmap, h.nameInField_eq hn "name" (by decide), h.nameInField_eq hn "returns" (by decide),
    h.nameInField_eq hn "type" (by decide), hparameters, htypeParameters]

/-- **Corresponding nodes declare the same members**, up to places. -/
theorem ofNode_eq (hn : R p n n') :
    (MemberDecl.ofNode f n).map unlocated = (MemberDecl.ofNode f' n').map unlocated := by
  unfold MemberDecl.ofNode
  simp only [h.modifiers_eq hn, ← h.kind_eq hn]
  split
  · exact h.ofVariables_eq hn _ _
  · exact h.ofVariables_eq hn _ _
  · exact h.ofProperty_eq hn _
  · exact h.ofMethod_eq hn _
  · rfl

/-! ### Bodies -/

theorem isBody_eq (hn : R p n n') {c c' : Node} (hc : R n.kind c c') :
    isBody n.children c = isBody n'.children c' := by
  have hany : (n.children.any fun c => c.label.field == some "body") =
      n'.children.any fun c => c.label.field == some "body" := by
    have hrel := h.childInField? hn (show "body" ∈ Node.readFields by decide)
    have hsome : (n.childInField? "body").isSome = (n'.childInField? "body").isSome := by
      generalize n.childInField? "body" = o, n'.childInField? "body" = o' at hrel
      cases hrel <;> rfl
    rw [Node.childInField?, Node.childInField?, List.isSome_find?, List.isSome_find?] at hsome
    exact hsome
  rw [isBody, isBody, hany, h.field_eq hc, h.kind_eq hc]

theorem body? (hn : R p n n') : Option.Rel (R n.kind) n.body? n'.body? :=
  h.find?_rel hn (fun _ hc => hc.isBody_eq _) (fun _ hc => hc.isBody_eq _)
    fun _ _ hc => h.isBody_eq hn hc

theorem memberNodes (hn : R p n n') : List.Forall₂ (R "declaration_list")
    (n.memberNodes.filter keep) (n'.memberNodes.filter keep) := by
  have hrel := h.body? hn
  rw [Node.memberNodes, Node.memberNodes]
  generalize n.body? = o, n'.body? = o' at hrel
  cases hrel with
  | none => exact .nil
  | @some body body' hbody =>
    simp only [h.kind_eq hbody]
    split_ifs with hkind
    · have hlist : body.kind = "declaration_list" := by
        rw [h.kind_eq hbody]
        simpa using hkind
      have hnamed := Disposal.filter_forall₂ (h.children hbody) fun c c' hc => h.named_eq hc
      rw [Node.namedChildren, Node.namedChildren, List.filter_comm keep,
        List.filter_comm keep]
      exact hlist ▸ hnamed.imp fun _ _ hc => hc.2
    · exact .nil

end Correspondence

end Disposal
