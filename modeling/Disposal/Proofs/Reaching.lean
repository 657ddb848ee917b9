import Disposal.Proofs.Partial
import Disposal.Proofs.Surroundings

/-!
# Which declarations are reached

Candidates are looked for in the whole tree of a file, and types are recorded on a walk that only
follows namespaces and types.  Here it is said without the walk which nodes it comes to, and under
which names it records them.

* `Reached`: a node is a type among some siblings, perhaps inside namespaces, or nested in one;
* `SourceFile.Reaches` is the same for a file, with the names on the way;
* `SourceFile.declares_declarations`: the walk records exactly these nodes, under these names;
* `SourceFile.DistinctSpans.lookup_bindingsOf_eq_some`: the place of a class is bound exactly if it
  is reached.
-/

namespace Disposal

open Declaration Reader

/-! ### Which nodes are reached -/

/-- A node is one of the types among some siblings or nested in one of them, or the same in a named
namespace among the siblings.  The names are those of the namespaces around the node, of the
namespaces without a body before it or before what is around it, and those of the types. -/
inductive Reached (source : Text.Bytes) : List Node → List String → Node → Prop where
  | type {t n : Node} {siblings : List Node} {names : List String} (type : t.isType = true)
      (nests : Nests source t names n) : Reached source (t :: siblings) names n
  | inBlock {c body n : Node} {name : String} {siblings : List Node} {names : List String}
      (named : c.blockNamespace? source = some name) (enclosed : c.body? = some body)
      (inside : Reached source body.children names n) :
      Reached source (c :: siblings) (name :: names) n
  | inFile {c n : Node} {name : String} {siblings : List Node} {names : List String}
      (named : c.fileNamespace? source = some name) (inside : Reached source c.children names n) :
      Reached source (c :: siblings) (name :: names) n
  | behind {c n : Node} {siblings : List Node} {names : List String}
      (rest : Reached source siblings names n) :
      Reached source (c :: siblings) ((c.fileNamespace? source).toList ++ names) n

/-- What is reached stands somewhere, and the names on the way are those of its surroundings. -/
theorem reached_iff {source : Text.Bytes} {cs : List Node} {names : List String} {n : Node} :
    Reached source cs names n ↔ ∃ s, Stands source cs s n ∧ names = s.names := by
  constructor
  · intro h
    induction h with
    | type type nests => exact ⟨_, .type type nests, rfl⟩
    | inBlock named enclosed inside ih =>
      obtain ⟨s, hs, rfl⟩ := ih
      exact ⟨_, .inBlock named enclosed hs, rfl⟩
    | inFile named inside ih =>
      obtain ⟨s, hs, rfl⟩ := ih
      exact ⟨_, .inFile named hs, rfl⟩
    | behind rest ih =>
      obtain ⟨s, hs, rfl⟩ := ih
      exact ⟨_, .behind hs, (s.names_behind source _).symm⟩
  · rintro ⟨s, hs, rfl⟩
    induction hs with
    | type type nests => exact .type type nests
    | inBlock named enclosed inside ih => exact .inBlock named enclosed ih
    | inFile named inside ih => exact .inFile named ih
    | behind rest ih =>
      rw [Surroundings.names_behind]
      exact .behind ih

/-- Every node between the root of a file and `n` leads on to it: these are named namespaces with
their bodies, and then named types with their bodies.  The names are those on the way. -/
def SourceFile.Reaches (f : SourceFile) (names : List String) (n : Node) : Prop :=
  Reached f.source f.root.children names n

/-! ### The walk records what is reached -/

namespace SourceFile

variable {f : SourceFile}

/-- **The walk over a file records what is reached**, under the names on the way. -/
theorem declares_declarations {n : Node} {q : String} :
    (∃ d ∈ f.typeDecls, d.node = n ∧ d.qualifiedName = q) ↔
      ∃ names, f.Reaches names n ∧ q = joinNames "" names := by
  constructor
  · rintro ⟨d, hd, hnode, hq⟩
    obtain ⟨s, hs, hname, -⟩ := records_declarations.1 ⟨d, hd, hnode, hq, rfl⟩
    exact ⟨s.names, reached_iff.2 ⟨s, hs, rfl⟩, hname⟩
  · rintro ⟨names, hnames, rfl⟩
    obtain ⟨s, hs, rfl⟩ := reached_iff.1 hnames
    obtain ⟨d, hd, hnode, hq, -⟩ := records_declarations.2 ⟨s, hs, rfl, rfl⟩
    exact ⟨d, hd, hnode, hq⟩

/-- **The place of a class is bound** exactly if the class is reached, to the names on the way. -/
theorem DistinctSpans.lookup_bindingsOf_eq_some (h : f.DistinctSpans) {n : Node}
    (hn : n ∈ f.root.classDeclarations) {q : String} :
    (Model.bindingsOf f.declarations).lookup n.span = some q ↔
      ∃ names, f.Reaches names n ∧ q = joinNames "" names := by
  obtain ⟨hmem, hclass⟩ := Node.mem_classDeclarations.1 hn
  rw [← declares_declarations]
  constructor
  · intro hlookup
    obtain ⟨d, hd, hspan, hq⟩ := Sources.mem_bindingsOf.1 (Assoc.mem_of_lookup hlookup)
    exact ⟨d, hd, h.node_eq hd hmem (Node.isType_of_isClass hclass) hspan, hq⟩
  · rintro ⟨d, hd, rfl, rfl⟩
    exact h.lookup_bindingsOf hd

end SourceFile

/-! ### Candidates and types -/

namespace Sources

/-- **The two traversals agree on every class.**  In files whose type declarations stand at
different places, a class that is found in the whole tree declares a type exactly if it is reached,
and then the type is known by the names on the way, joined by dots; names in front that are empty
are left out. -/
theorem classes_resolve_iff_reached (S : Sources) (hspans : ∀ f ∈ S.files, f.DistinctSpans)
    (c : Candidate) (f : SourceFile) (hf : S.files[c.file]? = some f)
    (hc : c.node ∈ f.root.classDeclarations) :
    (∀ names, f.Reaches names c.node → ∃ t, S.model.provider.declaration? c = some t ∧
      t.qualifiedName = ".".intercalate (names.dropWhile (· = ""))) ∧
    ((¬ ∃ names, f.Reaches names c.node) → S.model.provider.declaration? c = none) := by
  have hmem : f ∈ S.files := List.mem_of_getElem? hf
  have hbound := fun q => (hspans f hmem).lookup_bindingsOf_eq_some hc (q := q)
  have hdecl : S.model.provider.declaration? c =
      ((Model.bindingsOf f.declarations).lookup c.node.span).bind S.symbol? := by
    rw [declaration?_provider, hf, Option.bind_some]
  constructor
  · intro names hnames
    have hlookup := (hbound _).2 ⟨names, hnames, rfl⟩
    obtain ⟨t, ht⟩ : ∃ t, S.symbol? (joinNames "" names) = some t := by
      rw [← Option.isSome_iff_exists, isSome_symbol?, known]
      simp [declarationsOf_ne_nil_of_lookup hmem hlookup]
    refine ⟨t, by rw [hdecl, hlookup, Option.bind_some, ht], ?_⟩
    rw [qualifiedName_of_symbol? ht, joinNames_empty]
  · intro hunreached
    have hlookup : (Model.bindingsOf f.declarations).lookup c.node.span = none := by
      rw [Option.eq_none_iff_forall_not_mem]
      intro q hq
      obtain ⟨names, hnames, -⟩ := (hbound q).1 hq
      exact hunreached ⟨names, hnames⟩
    rw [hdecl, hlookup, Option.bind_none]

/-- A name that is written. -/
def writtenName (start : Nat) : Node :=
  leafAt "identifier" (some "name") ⟨start, start + 1⟩

/-- A class nested in another one. -/
def innerClass : Node := classNode ⟨20, 29⟩ [writtenName 26] 27 []

/-- A class with another one in it. -/
def outerClass : Node := classNode ⟨12, 30⟩ [writtenName 18] 19 [innerClass]

/-- A class in text that could not be parsed. -/
def strayClass : Node := classNode ⟨31, 40⟩ [writtenName 37] 38 []

/-- A file with these classes behind a namespace without a body. -/
def strayFile : SourceFile :=
  ⟨.ofString "a.cs", Text.encode "namespace A;class B\x7bclass C\x7b\x7d\x7d(class D\x7b\x7d)",
    nodeAt "compilation_unit" none ⟨0, 41⟩
      [nodeAt "file_scoped_namespace_declaration" none ⟨0, 12⟩ [writtenName 10], outerClass,
        nodeAt "ERROR" none ⟨30, 41⟩ [strayClass]]⟩

theorem reaches_innerClass : strayFile.Reaches ["A", "B", "C"] innerClass := by
  have hA : (writtenName 10).name strayFile.source = "A" := by decide +kernel
  have hB : (writtenName 18).name strayFile.source = "B" := by decide +kernel
  have hC : (writtenName 26).name strayFile.source = "C" := by decide +kernel
  have hinner : Nests strayFile.source innerClass [_] innerClass := .self rfl
  have houter : Nests strayFile.source outerClass [_, _] innerClass :=
    .inside rfl List.mem_cons_self rfl hinner
  have hfile : strayFile.Reaches [_, _, _] innerClass := .behind (.type rfl houter)
  simpa only [hA, hB, hC] using hfile

theorem not_reaches_strayClass : ¬ ∃ names, strayFile.Reaches names strayClass := by
  rintro ⟨names, hnames⟩
  -- it would be recorded, but nothing is recorded at its place
  obtain ⟨d, hd, hnode, -⟩ := SourceFile.declares_declarations.2 ⟨names, hnames, rfl⟩
  have hspan : strayClass.span ∈ strayFile.typeDecls.map TypeDecl.span :=
    List.mem_map.2 ⟨d, hd, congrArg Node.span hnode⟩
  revert hspan
  decide +kernel

theorem distinctSpans_strayFile : strayFile.DistinctSpans := by
  unfold SourceFile.DistinctSpans
  decide +kernel

theorem classes_resolve_iff_reached_strayFile :
    strayFile.DistinctSpans ∧
    (∃ t, (Sources.mk true [strayFile]).model.provider.declaration? ⟨0, innerClass⟩ = some t ∧
      t.qualifiedName = "A.B.C") ∧
    (Sources.mk true [strayFile]).model.provider.declaration? ⟨0, strayClass⟩ = none := by
  have hspans : ∀ f ∈ [strayFile], f.DistinctSpans := by
    intro f hf
    rw [List.mem_singleton.1 hf]
    exact distinctSpans_strayFile
  have hclasses : strayFile.root.classDeclarations = [outerClass, innerClass, strayClass] := rfl
  refine ⟨distinctSpans_strayFile, ?_, ?_⟩
  · obtain ⟨t, ht, hname⟩ := (classes_resolve_iff_reached ⟨true, [strayFile]⟩ hspans ⟨0, innerClass⟩
      strayFile rfl (by simp [hclasses])).1 _ reaches_innerClass
    exact ⟨t, ht, hname.trans (by decide +kernel)⟩
  · exact (classes_resolve_iff_reached ⟨true, [strayFile]⟩ hspans ⟨0, strayClass⟩ strayFile rfl
      (by simp [hclasses])).2 not_reaches_strayClass

/-- The class in a namespace whose name is missing. -/
def lowClass : Node := classNode ⟨10, 19⟩ [writtenName 16] 17 []

/-- A file with that class. -/
def lowFile : SourceFile :=
  ⟨.ofString "a.cs", Text.encode "namespace\x7bclass B\x7b\x7d\x7d",
    nodeAt "compilation_unit" none ⟨0, 20⟩
      [nodeAt "namespace_declaration" none ⟨0, 20⟩
        [missingName 9, nodeAt "declaration_list" (some "body") ⟨9, 20⟩ [lowClass]]]⟩

/-- The names on the way to a class are not always joined by dots as they are: the class in a
namespace whose name is missing is `B` and not `.B`. -/
theorem missing_namespace_lowFile :
    lowFile.DistinctSpans ∧ lowClass ∈ lowFile.root.classDeclarations ∧
      lowFile.Reaches ["", "B"] lowClass ∧
      ∃ t, (Sources.mk true [lowFile]).model.provider.declaration? ⟨0, lowClass⟩ = some t ∧
        t.qualifiedName = "B" ∧ t.qualifiedName ≠ ".".intercalate ["", "B"] := by
  have hspans : lowFile.DistinctSpans := by
    unfold SourceFile.DistinctSpans
    decide +kernel
  have hreaches : lowFile.Reaches ["", "B"] lowClass := by
    have hempty : (missingName 9).name lowFile.source = "" := by decide +kernel
    have hB : (writtenName 16).name lowFile.source = "B" := by decide +kernel
    have hself : Nests lowFile.source lowClass [_] lowClass := .self rfl
    have hfile : lowFile.Reaches [_, _] lowClass := .inBlock rfl rfl (.type rfl hself)
    simpa only [hempty, hB] using hfile
  have hname : ((Sources.mk true [lowFile]).model.provider.declaration? ⟨0, lowClass⟩).map
      TypeSymbol.qualifiedName = some "B" := by decide +kernel
  obtain ⟨t, ht, hB⟩ := Option.map_eq_some_iff.1 hname
  refine ⟨hspans, List.mem_singleton_self _, hreaches, t, ht, hB, ?_⟩
  rw [hB]
  decide +kernel

end Sources

end Disposal
