import Disposal.Proofs.Generation

/-!
# What surrounds a declaration

Names are looked up in a scope that the walk carries along: the namespace, the imports and the
types around a place.  Here it is said without the walk what surrounds a type declaration, and
proved that the walk records each declaration exactly with that.

* `Nests`: a node is a type or is nested in it;
* `Surroundings` are the namespaces and types around a node and the imports in force there, and
  `Stands` says that these surround it among some siblings; `SourceFile.Stands` is the same for a
  file;
* `Surroundings.qualifiedName`, `Surroundings.typeNames` and `Surroundings.scope` are the names and
  the scope that result;
* `Declaration.records_ofType` and `SourceFile.records_declarations`: the walk records exactly the
  nodes that stand somewhere, under their names and with their scopes.

The names on the way are joined by dots.  An empty name adds nothing as long as nothing stands
before it, so that a class in a namespace whose name is missing bears its own name.
-/

namespace Disposal

open Declaration

/-! ### Names joined by dots -/

/-- Names below an outer name, from the outside in. -/
def joinNames (outer : String) (names : List String) : String := names.foldl joinName outer

@[simp] theorem joinNames_nil (outer : String) : joinNames outer [] = outer := rfl

@[simp] theorem joinNames_cons (outer name : String) (names : List String) :
    joinNames outer (name :: names) = joinNames (joinName outer name) names := rfl

theorem joinNames_append (outer : String) (names more : List String) :
    joinNames outer (names ++ more) = joinNames (joinNames outer names) more :=
  List.foldl_append ..

theorem joinName_eq_empty {outer name : String} : joinName outer name = "" ↔
    outer = "" ∧ name = "" := by
  by_cases houter : outer = ""
  · simp [joinName, houter]
  · have hne : joinName outer name ≠ "" := Sources.joinName_ne_empty houter
    simp [hne, houter]

theorem joinNames_eq_intercalate {outer : String} (h : outer ≠ "") (names : List String) :
    joinNames outer names = ".".intercalate (outer :: names) := by
  induction names generalizing outer with
  | nil => simp
  | cons name names ih =>
    have hjoin : joinName outer name = outer ++ "." ++ name := if_neg h
    rw [joinNames_cons, ih (Sources.joinName_ne_empty h), hjoin]
    cases names with
    | nil => simp
    | cons next names => simp [String.intercalate_cons_cons, String.append_assoc]

/-- **Names are joined by dots**, apart from the empty ones in front of all others. -/
theorem joinNames_empty (names : List String) :
    joinNames "" names = ".".intercalate (names.dropWhile (· = "")) := by
  induction names with
  | nil => rfl
  | cons name names ih =>
    have hjoin : joinName "" name = name := if_pos rfl
    rw [joinNames_cons, hjoin]
    by_cases hname : name = ""
    · rw [hname, ih]
      simp
    · rw [joinNames_eq_intercalate hname, List.dropWhile_cons_of_neg (by simpa using hname)]

/-- The qualified names of types nested in one another below an outer name, outermost first. -/
def namesBelow (outer : String) : List String → List String
  | [] => []
  | name :: names => joinName outer name :: namesBelow (joinName outer name) names

/-! ### Namespaces and imports among siblings -/

/-- The name of a namespace declaration of the given kind. -/
def Node.namespaceName? (kind : String) (source : Text.Bytes) (n : Node) : Option String :=
  if n.kind = kind then (n.childInField? "name").map fun name => name.name source else none

/-- The name of a namespace with a body. -/
def Node.blockNamespace? : Text.Bytes → Node → Option String :=
  Node.namespaceName? "namespace_declaration"

/-- The name of a namespace without a body, which also holds for the siblings behind it. -/
def Node.fileNamespace? : Text.Bytes → Node → Option String :=
  Node.namespaceName? "file_scoped_namespace_declaration"

/-- What a node imports for the siblings behind it: the target of a using directive that is
neither an alias nor static nor for all files. -/
def Node.import? (source : Text.Bytes) (n : Node) : Option String :=
  if n.kind = "using_directive" then
    let u := Using.ofText (n.text source)
    if u.isGlobal then none else u.target
  else none

theorem role_eq_namespaceBlock {source : Text.Bytes} {n : Node} {x : String} :
    role source n = .namespaceBlock x ↔ n.blockNamespace? source = some x := by
  unfold role Node.blockNamespace? Node.namespaceName?
  split
  · rename_i hkind; simp [hkind]
  · rename_i hkind; cases n.childInField? "name" <;> simp [hkind]
  · rename_i hkind; cases n.childInField? "name" <;> simp [hkind]
  · rename_i _ hkind _
    rw [if_neg hkind]
    cases n.typeKind? <;> simp

theorem role_eq_fileNamespace {source : Text.Bytes} {n : Node} {x : String} :
    role source n = .fileNamespace x ↔ n.fileNamespace? source = some x := by
  unfold role Node.fileNamespace? Node.namespaceName?
  split
  · rename_i hkind; simp [hkind]
  · rename_i hkind; cases n.childInField? "name" <;> simp [hkind]
  · rename_i hkind; cases n.childInField? "name" <;> simp [hkind]
  · rename_i _ _ hkind
    rw [if_neg hkind]
    cases n.typeKind? <;> simp

theorem role_eq_usingDirective {source : Text.Bytes} {n : Node} {u : Using} :
    role source n = .usingDirective u ↔
      n.kind = "using_directive" ∧ u = Using.ofText (n.text source) := by
  unfold role
  split
  · rename_i hkind; simp [hkind, eq_comm]
  · rename_i hkind; cases n.childInField? "name" <;> simp [hkind]
  · rename_i hkind; cases n.childInField? "name" <;> simp [hkind]
  · rename_i hkind _ _
    have hne : n.kind ≠ "using_directive" := fun h => hkind h
    cases n.typeKind? <;> simp [hne]

theorem role_eq_type {source : Text.Bytes} {n : Node} {kind : TypeKind} :
    role source n = .type kind ↔ n.typeKind? = some kind := by
  refine ⟨typeKind?_of_role, fun hkind => ?_⟩
  unfold role
  split
  · rename_i hn; simp [Node.typeKind?, hn] at hkind
  · rename_i hn; simp [Node.typeKind?, hn] at hkind
  · rename_i hn; simp [Node.typeKind?, hn] at hkind
  · rw [hkind]; rfl

/-! ### Where a declaration stands -/

/-- A node is a named type declaration, or is nested in it through the bodies of named types.  The
names are those of the types around the node and its own. -/
inductive Nests (source : Text.Bytes) : Node → List String → Node → Prop where
  | self {t name : Node} (named : t.childInField? "name" = some name) :
      Nests source t [name.name source] t
  | inside {t name c n : Node} {names : List String} (named : t.childInField? "name" = some name)
      (member : c ∈ t.memberNodes) (type : c.isType = true) (inner : Nests source c names n) :
      Nests source t (name.name source :: names) n

theorem Nests.names_ne_nil {source : Text.Bytes} {t n : Node} {names : List String}
    (h : Nests source t names n) : names ≠ [] := by
  cases h with
  | self => exact List.cons_ne_nil _ _
  | inside => exact List.cons_ne_nil _ _

/-- What surrounds a type declaration. -/
structure Surroundings where
  /-- The names of the namespaces around it, outermost first. -/
  namespaces : List String
  /-- The imports before it, those of outer declaration lists first. -/
  imports : List String
  /-- The names of the types around it and its own, outermost first. -/
  types : List String

namespace Surroundings

variable (s : Surroundings)

/-- All names on the way to a declaration. -/
def names : List String := s.namespaces ++ s.types

/-- The name that a declaration has. -/
def qualifiedName : String := joinNames "" s.names

/-- The name of the namespace around a declaration. -/
def namespaceName : String := joinNames "" s.namespaces

/-- The qualified names of the types around a declaration and its own, outermost first. -/
def typeNames : List String := namesBelow s.namespaceName s.types

/-- The scope of a declaration that stands below another scope. -/
def below (scope : Scope) : Scope where
  namespaceName := joinNames scope.namespaceName s.namespaces
  usings := scope.usings ++ s.imports
  containers := (namesBelow (joinNames scope.namespaceName s.namespaces) s.types).reverse ++
    scope.containers

/-- The scope in which the base list and the members of a declaration are read. -/
def scope : Scope := ⟨s.namespaceName, s.imports, s.typeNames.reverse⟩

/-- The same inside one more namespace. -/
def inNamespace (name : String) : Surroundings := { s with namespaces := name :: s.namespaces }

/-- The same behind one more sibling: it may be a namespace without a body or an import. -/
def behind (source : Text.Bytes) (c : Node) : Surroundings :=
  { s with
    namespaces := (c.fileNamespace? source).toList ++ s.namespaces
    imports := (c.import? source).toList ++ s.imports }

theorem below_empty : s.below {} = s.scope := by
  simp [below, scope, typeNames, namespaceName]

theorem below_enter (scope : Scope) (name : String) :
    s.below (enter scope name) = (s.inNamespace name).below scope := rfl

theorem names_behind (source : Text.Bytes) (c : Node) :
    (s.behind source c).names = (c.fileNamespace? source).toList ++ s.names := by
  simp [names, behind]

end Surroundings

/-- A node is one of the types among some siblings or nested in one of them, or the same in a named
namespace among the siblings, with these surroundings. -/
inductive Stands (source : Text.Bytes) : List Node → Surroundings → Node → Prop where
  | type {t n : Node} {siblings : List Node} {types : List String} (type : t.isType = true)
      (nests : Nests source t types n) : Stands source (t :: siblings) ⟨[], [], types⟩ n
  | inBlock {c body n : Node} {name : String} {siblings : List Node} {s : Surroundings}
      (named : c.blockNamespace? source = some name) (enclosed : c.body? = some body)
      (inside : Stands source body.children s n) :
      Stands source (c :: siblings) (s.inNamespace name) n
  | inFile {c n : Node} {name : String} {siblings : List Node} {s : Surroundings}
      (named : c.fileNamespace? source = some name) (inside : Stands source c.children s n) :
      Stands source (c :: siblings) (s.inNamespace name) n
  | behind {c n : Node} {siblings : List Node} {s : Surroundings}
      (rest : Stands source siblings s n) : Stands source (c :: siblings) (s.behind source c) n

theorem stands_cons (source : Text.Bytes) (c : Node) (cs : List Node) {n : Node}
    {s : Surroundings} :
    Stands source (c :: cs) s n ↔
      Stands source [c] s n ∨ ∃ r, Stands source cs r n ∧ s = r.behind source c := by
  constructor
  · intro h
    cases h with
    | type type nests => exact .inl (.type type nests)
    | inBlock named enclosed inside => exact .inl (.inBlock named enclosed inside)
    | inFile named inside => exact .inl (.inFile named inside)
    | behind rest => exact .inr ⟨_, rest, rfl⟩
  · rintro (h | ⟨r, h, rfl⟩)
    · cases h with
      | type type nests => exact .type type nests
      | inBlock named enclosed inside => exact .inBlock named enclosed inside
      | inFile named inside => exact .inFile named inside
      | behind rest => cases rest
    · exact .behind h

theorem stands_singleton {source : Text.Bytes} {c n : Node} {s : Surroundings} :
    Stands source [c] s n ↔
      match role source c with
      | .namespaceBlock name => ∃ body r, c.body? = some body ∧
          Stands source body.children r n ∧ s = r.inNamespace name
      | .fileNamespace name => ∃ r, Stands source c.children r n ∧ s = r.inNamespace name
      | .type _ => ∃ types, Nests source c types n ∧ s = ⟨[], [], types⟩
      | _ => False := by
  constructor
  · intro h
    cases h with
    | type type nests =>
      obtain ⟨kind, hkind⟩ := Option.isSome_iff_exists.1 type
      rw [role_eq_type.2 hkind]
      exact ⟨_, nests, rfl⟩
    | inBlock named enclosed inside =>
      rw [role_eq_namespaceBlock.2 named]
      exact ⟨_, _, enclosed, inside, rfl⟩
    | inFile named inside =>
      rw [role_eq_fileNamespace.2 named]
      exact ⟨_, inside, rfl⟩
    | behind rest => cases rest
  · intro h
    split at h
    · rename_i hrole
      obtain ⟨body, r, hbody, hinside, rfl⟩ := h
      exact .inBlock (role_eq_namespaceBlock.1 hrole) hbody hinside
    · rename_i hrole
      obtain ⟨r, hinside, rfl⟩ := h
      exact .inFile (role_eq_fileNamespace.1 hrole) hinside
    · rename_i hrole
      obtain ⟨types, hnests, rfl⟩ := h
      exact .type (by rw [Node.isType, typeKind?_of_role hrole]; rfl) hnests
    · cases h

/-- A node declares a type in a file with these surroundings: every node between the root of the
file and it is a named namespace with its body, or a named type with its body. -/
def SourceFile.Stands (f : SourceFile) (s : Surroundings) (n : Node) : Prop :=
  Disposal.Stands f.source f.root.children s n

/-! ### The walk records what stands somewhere -/

namespace Declaration

variable {f : SourceFile} {scope sc : Scope} {m : Node} {q : String}

/-- Some declaration is recorded from the node `m` under the name `q` with a scope. -/
def Records (ds : List Declaration) (m : Node) (q : String) (sc : Scope) : Prop :=
  ∃ d ∈ typesIn ds, d.node = m ∧ d.qualifiedName = q ∧ d.scope = sc

theorem records_append {a b : List Declaration} :
    Records (a ++ b) m q sc ↔ Records a m q sc ∨ Records b m q sc := by
  simp only [Records, typesIn_append, List.mem_append, or_and_right, exists_or]

theorem records_cons_type {d : TypeDecl} {ds : List Declaration} :
    Records (.type d :: ds) m q sc ↔
      (d.node = m ∧ d.qualifiedName = q ∧ d.scope = sc) ∨ Records ds m q sc := by
  simp only [Records, typesIn_cons_type, List.mem_cons, exists_eq_or_imp]

theorem records_flatMap {l : List Node} {g : Node → List Declaration} :
    Records (l.flatMap g) m q sc ↔ ∃ c ∈ l, Records (g c) m q sc := by
  simp only [Records, typesIn_flatMap, List.mem_flatMap]
  constructor
  · rintro ⟨d, ⟨c, hc, hd⟩, h⟩
    exact ⟨c, hc, d, hd, h⟩
  · rintro ⟨c, hc, d, hd, h⟩
    exact ⟨d, ⟨c, hc, hd⟩, h⟩

theorem not_records_nil : ¬ Records [] m q sc := by
  rintro ⟨d, hd, -⟩
  cases hd

theorem records_ofMember {owner : String} {c : Node} :
    Records (ofMember f scope owner c) m q sc ↔
      ∃ kind, c.typeKind? = some kind ∧ Records (ofType f scope (some owner) kind c) m q sc := by
  cases hc : c.typeKind? with
  | none => simp [ofMember, hc, Records]
  | some kind => simp [ofMember, hc]

/-- The name below which a type declares: that of the type around it, or else the namespace. -/
def outerName (scope : Scope) (outer : Option String) : String := outer.getD scope.namespaceName

theorem outerName_some (scope : Scope) (name : String) : outerName scope (some name) = name := rfl

/-- The type around a place has an empty name only outside of all namespaces. -/
def OuterOk (scope : Scope) (outer : Option String) : Prop :=
  outer = some "" → scope.namespaceName = ""

theorem qualifiedName_ofNode {outer : Option String} (h : OuterOk scope outer) (kind : TypeKind)
    (name : String) (n : Node) :
    (TypeDecl.ofNode f scope outer kind name n).qualifiedName =
      joinName (outerName scope outer) name := by
  cases outer with
  | none => rfl
  | some o =>
    by_cases ho : o = ""
    · subst ho
      simp [TypeDecl.ofNode, outerName, h rfl]
    · simp [TypeDecl.ofNode, outerName, joinName, ho]

theorem OuterOk.inner {outer : Option String} (h : OuterOk scope outer) {name : String} :
    scope.namespaceName = "" ∨ joinName (outerName scope outer) name ≠ "" := by
  by_cases hname : joinName (outerName scope outer) name = ""
  · have houter := (joinName_eq_empty.1 hname).1
    cases outer with
    | none => exact .inl houter
    | some o => exact .inl (h (congrArg some houter))
  · exact .inr hname

/-- **A type and what is nested in it** are recorded under the names on the way to them, and each
in a scope with the types around it and itself. -/
theorem records_ofType {outer : Option String} {kind : TypeKind} {n : Node}
    (h : OuterOk scope outer) :
    Records (ofType f scope outer kind n) m q sc ↔
      ∃ names, Nests f.source n names m ∧ q = joinNames (outerName scope outer) names ∧
        sc = { scope with containers :=
          (namesBelow (outerName scope outer) names).reverse ++ scope.containers } := by
  induction n using Node.descendants_induction generalizing scope outer kind with
  | _ n ih =>
    cases hname : n.childInField? "name" with
    | none =>
      rw [ofType_unnamed hname]
      constructor
      · rintro ⟨d, hd, -⟩
        cases hd
      · rintro ⟨names, hnests, -⟩
        cases hnests with
        | self named => rw [hname] at named; cases named
        | inside named => rw [hname] at named; cases named
    | some name =>
      obtain ⟨d, hd, heq⟩ := ofType_named f scope outer kind hname
      have hnode : d.node = n := by rw [hd]; rfl
      have hq : d.qualifiedName = joinName (outerName scope outer) (name.name f.source) := by
        rw [hd]
        exact qualifiedName_ofNode h ..
      have hscope : d.scope =
          { scope with containers := d.qualifiedName :: scope.containers } := by rw [hd]; rfl
      have hinner : OuterOk d.scope (some d.qualifiedName) := by
        intro hempty
        rw [hscope]
        rw [hq, Option.some.injEq] at hempty
        exact h.inner.resolve_right fun hne => hne hempty
      rw [heq, records_cons_type, records_flatMap, hnode]
      constructor
      · rintro (⟨rfl, rfl, rfl⟩ | ⟨c, hc, hrecords⟩)
        · refine ⟨_, .self hname, hq, ?_⟩
          rw [hscope, hq]
          rfl
        · obtain ⟨kind, hkind, hrecords⟩ := records_ofMember.1 hrecords
          obtain ⟨names, hnests, rfl, rfl⟩ := (ih c (Node.memberNodes_subset hc) hinner).1 hrecords
          have htype : c.isType = true := by rw [Node.isType, hkind]; rfl
          refine ⟨_, .inside hname hc htype hnests, ?_, ?_⟩
          · rw [joinNames_cons, ← hq, outerName_some]
          · rw [outerName_some, namesBelow, List.reverse_cons, List.append_assoc, ← hq, hscope]
            rfl
      · rintro ⟨names, hnests, rfl, rfl⟩
        cases hnests with
        | self named =>
          obtain rfl := Option.some.inj (hname.symm.trans named)
          refine .inl ⟨rfl, hq, ?_⟩
          rw [hscope, hq]
          rfl
        | @inside _ name' c _ names named member type inner =>
          obtain rfl := Option.some.inj (hname.symm.trans named)
          obtain ⟨kind, hkind⟩ := Option.isSome_iff_exists.1 type
          refine .inr ⟨c, member, records_ofMember.2 ⟨kind, hkind, ?_⟩⟩
          refine (ih c (Node.memberNodes_subset member) hinner).2 ⟨names, inner, ?_, ?_⟩
          · rw [joinNames_cons, ← hq, outerName_some]
          · rw [outerName_some, namesBelow, List.reverse_cons, List.append_assoc, ← hq, hscope]
            rfl

/-- Behind a namespace without a body its name is added, and behind an import its target. -/
theorem scopeBehind_eq (source : Text.Bytes) (scope : Scope) (n : Node) :
    scopeBehind source scope n =
      { scope with
        namespaceName := joinNames scope.namespaceName (n.fileNamespace? source).toList
        usings := scope.usings ++ (n.import? source).toList } := by
  unfold scopeBehind
  split
  · rename_i u hrole
    obtain ⟨hkind, hu⟩ := role_eq_usingDirective.1 hrole
    have hfile : n.fileNamespace? source = none := by
      simp [Node.fileNamespace?, Node.namespaceName?, hkind]
    rw [hfile, Node.import?, if_pos hkind, ← hu, addUsing]
    obtain ⟨target, isGlobal⟩ := u
    cases target with
    | none => simp
    | some target => cases isGlobal <;> simp
  · rename_i name hrole
    have hfile : n.fileNamespace? source = some name := role_eq_fileNamespace.1 hrole
    have himport : n.import? source = none := by
      rw [Node.import?, if_neg]
      intro hkind
      rw [role_eq_usingDirective.2 ⟨hkind, rfl⟩] at hrole
      cases hrole
    simp [hfile, himport, enter]
  · rename_i husing hnamespace
    have hfile : n.fileNamespace? source = none := by
      rw [Option.eq_none_iff_forall_not_mem]
      exact fun name hname => hnamespace name (role_eq_fileNamespace.2 hname)
    have himport : n.import? source = none := by
      rw [Node.import?, if_neg]
      exact fun hkind => husing _ (role_eq_usingDirective.2 ⟨hkind, rfl⟩)
    simp [hfile, himport]

theorem below_scopeBehind (s : Surroundings) (source : Text.Bytes) (scope : Scope) (c : Node) :
    s.below (scopeBehind source scope c) = (s.behind source c).below scope := by
  simp [scopeBehind_eq, Surroundings.below, Surroundings.behind, joinNames_append]

/-- The walk over some siblings in a scope records what stands among them. -/
def RecordsStanding (f : SourceFile) (scope : Scope) (ds : List Declaration) (cs : List Node) :
    Prop :=
  ∀ m q sc, Records ds m q sc ↔
    ∃ s, Stands f.source cs s m ∧ q = joinNames scope.namespaceName s.names ∧ sc = s.below scope

/-- Siblings are recorded one by one, each in the scope behind those before it. -/
theorem recordsStanding_ofSiblings_of_forall {cs : List Node}
    (h : ∀ c ∈ cs, ∀ scope, RecordsStanding f scope (ofNode f scope c) [c]) (scope : Scope) :
    RecordsStanding f scope (ofSiblings f scope cs) cs := by
  induction cs generalizing scope with
  | nil =>
    intro m q sc
    rw [ofSiblings]
    constructor
    · intro hrecords
      exact absurd hrecords not_records_nil
    · rintro ⟨s, hs, -⟩
      cases hs
  | cons c cs ih =>
    intro m q sc
    have hrest := ih (fun c hc => h c (List.mem_cons_of_mem _ hc)) (scopeBehind f.source scope c)
    have hname : (scopeBehind f.source scope c).namespaceName =
        joinNames scope.namespaceName (c.fileNamespace? f.source).toList := by
      rw [scopeBehind_eq]
    rw [ofSiblings, records_append, h c List.mem_cons_self scope m q sc, hrest m q sc]
    simp only [stands_cons f.source c cs, hname, below_scopeBehind, ← joinNames_append,
      ← Surroundings.names_behind]
    constructor
    · rintro (⟨s, hs, hq, hsc⟩ | ⟨s, hs, hq, hsc⟩)
      · exact ⟨s, .inl hs, hq, hsc⟩
      · exact ⟨_, .inr ⟨s, hs, rfl⟩, hq, hsc⟩
    · rintro ⟨s, hs | ⟨r, hr, rfl⟩, hq, hsc⟩
      · exact .inl ⟨s, hs, hq, hsc⟩
      · exact .inr ⟨r, hr, hq, hsc⟩

/-- **What stands at one node** is recorded. -/
theorem recordsStanding_ofNode (n : Node) (scope : Scope) :
    RecordsStanding f scope (ofNode f scope n) [n] := by
  induction n using Node.descendants_induction generalizing scope with
  | _ n ih =>
    -- what stands in a namespace is below its node
    have inside : ∀ b : Node, (∀ c ∈ b.children, c ∈ n.descendants) → ∀ scope,
        RecordsStanding f scope (ofSiblings f scope b.children) b.children := fun b hb =>
      recordsStanding_ofSiblings_of_forall fun c hc => ih c (hb c hc)
    have hchild : ∀ c ∈ n.children, c ∈ n.descendants := fun c hc =>
      (Node.preorder_sublist_descendants hc).subset c.self_mem_preorder
    intro m q sc
    simp only [ofNode_eq, stands_singleton]
    cases role f.source n with
    | usingDirective u =>
      have hnone : ¬ Records (ofUsing u) m q sc := by
        rintro ⟨d, hd, -⟩
        unfold ofUsing at hd
        split at hd
        · split_ifs at hd <;> cases hd
        · cases hd
      simp [hnone]
    | namespaceBlock name =>
      cases hbody : n.body? with
      | none => simp [Records]
      | some body =>
        have hdeep : ∀ c ∈ body.children, c ∈ n.descendants := fun c hc => by
          refine (Node.preorder_sublist_descendants (List.mem_of_find?_eq_some hbody)).subset ?_
          rw [Node.preorder_eq]
          exact List.mem_cons_of_mem _
            ((Node.preorder_sublist_descendants hc).subset c.self_mem_preorder)
        have henter := inside body hdeep (enter scope name) m q sc
        simp only [henter, Surroundings.below_enter]
        constructor
        · rintro ⟨s, hs, rfl, rfl⟩
          exact ⟨s.inNamespace name, ⟨body, s, rfl, hs, rfl⟩, rfl, rfl⟩
        · rintro ⟨_, ⟨_, s, hsame, hs, rfl⟩, rfl, rfl⟩
          obtain rfl := Option.some.inj hsame
          exact ⟨s, hs, rfl, rfl⟩
    | fileNamespace name =>
      have henter := inside n hchild (enter scope name) m q sc
      simp only [henter, Surroundings.below_enter]
      constructor
      · rintro ⟨s, hs, rfl, rfl⟩
        exact ⟨s.inNamespace name, ⟨s, hs, rfl⟩, rfl, rfl⟩
      · rintro ⟨_, ⟨s, hs, rfl⟩, rfl, rfl⟩
        exact ⟨s, hs, rfl, rfl⟩
    | type kind =>
      have hbelow : ∀ types, (⟨[], [], types⟩ : Surroundings).below scope =
          { scope with containers :=
            (namesBelow scope.namespaceName types).reverse ++ scope.containers } := fun types => by
        simp [Surroundings.below]
      simp only [records_ofType (show OuterOk scope none by rintro ⟨⟩)]
      constructor
      · rintro ⟨types, hnests, rfl, rfl⟩
        exact ⟨_, ⟨types, hnests, rfl⟩, rfl, (hbelow types).symm⟩
      · rintro ⟨_, ⟨types, hnests, rfl⟩, rfl, rfl⟩
        exact ⟨types, hnests, rfl, hbelow types⟩
    | other => simp [Records]

end Declaration

/-- **The walk over a file records what stands in it**, under the names on the way and with the
scope that its surroundings make. -/
theorem SourceFile.records_declarations {f : SourceFile} {n : Node} {q : String} {sc : Scope} :
    Records f.declarations n q sc ↔ ∃ s, f.Stands s n ∧ q = s.qualifiedName ∧ sc = s.scope := by
  have h : RecordsStanding f {} f.declarations f.root.children :=
    recordsStanding_ofSiblings_of_forall (fun c _ => recordsStanding_ofNode c) {}
  simp only [RecordsStanding, Surroundings.below_empty] at h
  exact h n q sc

end Disposal
