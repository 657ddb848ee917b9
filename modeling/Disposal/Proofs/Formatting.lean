import Disposal.Proofs.Agreement
import Disposal.Proofs.Lockstep
import Disposal.Proofs.Outline
import Mathlib.Data.List.Zip

/-!
# Formatting and comments

Two files with the same outline differ in their formatting and comments only.  The walks over their
trees go side by side and record the same, up to places.  A candidate is matched with its type by
its place, and places differ between the files; but the nodes at corresponding places are matched
with the same types.

* `Facing` are nodes at the same place of two trees, `Facing.children` goes down from there;
* `SameType`, `SameDeclaration`: two declarations say the same, up to places;
* `Facing.lockstep`: the two walks record the same declarations;
* `boundNames_eq`: the candidates of the two files are recorded under the same names;
* `Reformatted.agree`: files that are reformatted agree on all names.
-/

namespace Disposal

open Declaration Reader

/-- The outline of a file. -/
def SourceFile.outline (f : SourceFile) : Outline := f.root.outline f.source ""

/-! ### Nodes at the same place -/

/-- Two nodes stand at the same place of the trees of two files: they have the same outline, and so
the types at and below them stand at the same places. -/
structure Facing (f f' : SourceFile) (parent : String) (n n' : Node) : Prop where
  twins : Twins f.source f'.source parent n n'
  types : n.types.zip n'.types ⊆ f.root.types.zip f'.root.types

/-- The types below nodes that are paired one by one are paired in the same way. -/
theorem zip_types_subset {xs ys : List Node}
    (h : List.Forall₂ (fun a b => a.types.length = b.types.length) xs ys) {c c' : Node}
    (hc : (c, c') ∈ xs.zip ys) :
    c.types.zip c'.types ⊆ (xs.flatMap Node.types).zip (ys.flatMap Node.types) := by
  induction h with
  | nil => cases hc
  | @cons a b xs ys hab _ ih =>
    rw [List.flatMap_cons, List.flatMap_cons, List.zip_append hab]
    rcases List.mem_cons.1 hc with heq | hc
    · obtain ⟨rfl, rfl⟩ := Prod.mk.inj heq
      exact List.subset_append_left _ _
    · exact List.subset_append_of_subset_right _ (ih hc)

namespace Facing

variable {f f' : SourceFile} {parent : String} {n n' : Node}

theorem root (h : f.outline = f'.outline) : Facing f f' "" f.root f'.root := ⟨h, fun _ => id⟩

/-- **From a place down**: the children stand at the same places, one by one and without
comments. -/
theorem children (h : Facing f f' parent n n') :
    List.Forall₂ (Facing f f' n.kind) n.solid n'.solid := by
  have htype : n.isType = n'.isType := by
    rw [Node.isType, Node.isType, Twins.correspondence.typeKind?_eq h.twins]
  have hbelow : (n.solid.flatMap Node.types).zip (n'.solid.flatMap Node.types) ⊆
      n.types.zip n'.types := by
    rw [n.types_eq, n'.types_eq, List.zip_append (by split_ifs <;> simp_all)]
    exact List.subset_append_right _ _
  have hlengths : List.Forall₂ (fun a b => a.types.length = b.types.length) n.solid n'.solid :=
    h.twins.children.imp fun a b hab => hab.types.length_eq
  -- the types below a node follow each other as its children do
  refine List.forall₂_iff_zip.2 ⟨h.twins.children.length_eq, fun {c c'} hc => ⟨?_, ?_⟩⟩
  · exact List.forall₂_zip h.twins.children hc
  · exact List.Subset.trans (List.Subset.trans (zip_types_subset hlengths hc) hbelow) h.types

/-- **Nodes at the same place are read alike.** -/
theorem correspondence : Correspondence f.source f'.source (fun c => !c.isComment)
    (Facing f f') where
  ignored _ hc := Node.isIgnored_of_isComment (by simpa using hc)
  kind_eq h := h.twins.kind_eq
  field_eq h := h.twins.field_eq
  named_eq h := h.twins.named_eq
  children := children
  text_eq h := Twins.correspondence.text_eq h.twins
  trim_eq h := Twins.correspondence.trim_eq h.twins
  name_eq h := Twins.correspondence.name_eq h.twins
  declared_eq h := Twins.correspondence.declared_eq h.twins

end Facing

/-! ### Declarations that say the same -/

/-- The declaration without its place. -/
def TypeDecl.unplaced (d : TypeDecl) : TypeDecl :=
  { d with location := default, node := default }

/-- Two type declarations say the same and stand at the same place of two trees. -/
structure SameType (f f' : SourceFile) (d d' : TypeDecl) : Prop where
  unplaced : d.unplaced = d'.unplaced
  members : (d.members f).map MemberDecl.unlocated = (d'.members f').map MemberDecl.unlocated
  place : (d.node, d'.node) ∈ f.root.types.zip f'.root.types

theorem SameType.congr {α : Type} {f f' : SourceFile} {d d' : TypeDecl} (h : SameType f f' d d')
    (g : TypeDecl → α) (hg : ∀ d, g d.unplaced = g d) : g d = g d' := by
  rw [← hg d, h.unplaced, hg d']

/-- Two declarations say the same. -/
inductive SameDeclaration (f f' : SourceFile) : Declaration → Declaration → Prop where
  | type {d d' : TypeDecl} (same : SameType f f' d d') : SameDeclaration f f' (.type d) (.type d')
  | member (owner : String) (scope : Scope) {m m' : MemberDecl}
      (same : m.unlocated = m'.unlocated) :
      SameDeclaration f f' (.member owner scope m) (.member owner scope m')
  | globalUsing (target : String) : SameDeclaration f f' (.globalUsing target) (.globalUsing target)
  | unnamed (kind : String) : SameDeclaration f f' (.unnamed kind) (.unnamed kind)

theorem forall₂_members {f f' : SourceFile} (owner : String) (scope : Scope)
    {ms ms' : List MemberDecl}
    (h : ms.map MemberDecl.unlocated = ms'.map MemberDecl.unlocated) :
    List.Forall₂ (SameDeclaration f f') (ms.map (.member owner scope))
      (ms'.map (.member owner scope)) := by
  rw [List.forall₂_map_left_iff, List.forall₂_map_right_iff]
  exact (map_eq_map_iff_forall₂.1 h).imp fun _ _ hm => .member owner scope hm

namespace Facing

variable {f f' : SourceFile} {parent : String} {n n' : Node}

theorem members_eq (h : Facing f f' parent n n') :
    ((n.memberNodes.filter fun c => c.typeKind?.isNone).flatMap (MemberDecl.ofNode f)).map
        MemberDecl.unlocated =
      ((n'.memberNodes.filter fun c => c.typeKind?.isNone).flatMap (MemberDecl.ofNode f')).map
        MemberDecl.unlocated := by
  have hcomment : ∀ (f : SourceFile) (c : Node), (!c.isComment) = false →
      MemberDecl.ofNode f c = [] :=
    fun f c hc => (Node.isIgnored_of_isComment (by simpa using hc)).ofNode_eq f
  rw [← flatMap_kept (hcomment f), ← flatMap_kept (hcomment f'), List.map_flatMap,
    List.map_flatMap, List.filter_comm, List.filter_comm _ _ n'.memberNodes]
  refine flatMap_eq_of_forall₂ (filter_forall₂ (correspondence.memberNodes h) fun c c' hc => ?_)
    fun c c' hc => correspondence.ofNode_eq hc.2
  rw [correspondence.typeKind?_eq hc]

/-- Two type declarations that are read in the same scope at the same place are the same. -/
theorem sameType (h : Facing f f' parent n n') (scope : Scope) (outer : Option String)
    {kind : TypeKind} (hkind : n.typeKind? = some kind) (name : String) :
    SameType f f' (.ofNode f scope outer kind name n) (.ofNode f' scope outer kind name n') := by
  have htype : n.isType = true := by rw [Node.isType, hkind]; rfl
  have htype' : n'.isType = true := by
    rw [Node.isType, ← correspondence.typeKind?_eq h, hkind]
    rfl
  refine ⟨?_, h.members_eq, h.types ?_⟩
  · rw [TypeDecl.unplaced, TypeDecl.unplaced]
    simp only [TypeDecl.ofNode, correspondence.modifiers_eq h, correspondence.baseEntries_eq h]
  · rw [n.types_eq, n'.types_eq, if_pos htype, if_pos htype']
    exact List.mem_cons_self

/-- **What the walks record at the same place is the same.** -/
theorem lockstep : Lockstep f f' (fun c => !c.isComment) (Facing f f')
    (SameDeclaration f f') where
  toCorrespondence := correspondence
  type h _ hkind scope outer name := .type (h.sameType scope outer hkind name)
  members h owner scope := forall₂_members owner scope (correspondence.ofNode_eq h)
  globalUsing := .globalUsing
  unnamed := .unnamed

end Facing

/-! ### Files with the same outline -/

section

variable {f f' : SourceFile} {n n' : Node} {q : String}

/-- **Files with the same outline declare the same**, up to places. -/
theorem sameDeclarations (h : f.outline = f'.outline) :
    List.Forall₂ (SameDeclaration f f') f.declarations f'.declarations :=
  Facing.lockstep.ofSiblings (Facing.root h).children {}

theorem sameTypes (h : f.outline = f'.outline) :
    List.Forall₂ (SameType f f') f.typeDecls f'.typeDecls := by
  refine List.rel_filterMap ?_ (sameDeclarations h)
  rintro d d' hd
  cases hd with
  | type same => exact .some same
  | member => exact .none
  | globalUsing => exact .none
  | unnamed => exact .none

theorem sameTypesOf (h : f.outline = f'.outline) (q : String) :
    List.Forall₂ (SameType f f') (typesOf q f.declarations) (typesOf q f'.declarations) := by
  have hname : ∀ ⦃d d'⦄, SameType f f' d d' → (decide (d.qualifiedName = q) = true ↔
      decide (d'.qualifiedName = q) = true) := by
    intro d d' hd
    rw [hd.congr TypeDecl.qualifiedName fun _ => rfl]
  exact List.rel_filter hname (sameTypes h)

theorem sameGlobalUsings (h : f.outline = f'.outline) :
    Model.globalUsings f.declarations = Model.globalUsings f'.declarations := by
  refine filterMap_eq_of_forall₂ (sameDeclarations h) fun d d' hd => ?_
  cases hd <;> rfl

theorem lookup_of_facing (h : f.outline = f'.outline) (hspans : f.DistinctSpans)
    (hspans' : f'.DistinctSpans) (hplace : (n, n') ∈ f.root.types.zip f'.root.types)
    (hlookup : (Model.bindingsOf f.declarations).lookup n.span = some q) :
    (Model.bindingsOf f'.declarations).lookup n'.span = some q := by
  obtain ⟨d, hd, hspan, hq⟩ := Sources.mem_bindingsOf.1 (Assoc.mem_of_lookup hlookup)
  obtain ⟨hn, htype⟩ := List.mem_filter.1 (List.of_mem_zip hplace).1
  have hnode : d.node = n := hspans.node_eq hd hn htype hspan
  obtain ⟨d', hd', hsame⟩ := exists_of_forall₂ (sameTypes h) hd
  -- the declaration of the other file stands opposite to the same node
  have hnode' : d'.node = n' :=
    eq_of_mem_zip (List.Nodup.of_map _ hspans) (hnode ▸ hsame.place) hplace
  have hname : d'.qualifiedName = q := hq ▸ (hsame.congr TypeDecl.qualifiedName fun _ => rfl).symm
  have hbound := hspans'.lookup_bindingsOf hd'
  rwa [TypeDecl.span, hnode', hname] at hbound

theorem lookup_eq (h : f.outline = f'.outline) (hspans : f.DistinctSpans)
    (hspans' : f'.DistinctSpans) (hplace : (n, n') ∈ f.root.types.zip f'.root.types) :
    (Model.bindingsOf f.declarations).lookup n.span =
      (Model.bindingsOf f'.declarations).lookup n'.span := by
  have hplace' : (n', n) ∈ f'.root.types.zip f.root.types := by
    rw [← List.zip_swap]
    exact List.mem_map.2 ⟨(n, n'), hplace, rfl⟩
  ext q
  exact ⟨lookup_of_facing h hspans hspans' hplace, lookup_of_facing h.symm hspans' hspans hplace'⟩

theorem forall₂_candidates (h : f.outline = f'.outline) (filter : Filter) :
    List.Forall₂ (fun a b => (a, b) ∈ f.root.types.zip f'.root.types)
      (f.root.classDeclarations.filter (filter.accepts f.source))
      (f'.root.classDeclarations.filter (filter.accepts f'.source)) := by
  have hclasses : ∀ n : Node, n.classDeclarations = n.types.filter Node.isClass := by
    intro n
    rw [Node.classDeclarations_eq, Node.types, List.filter_filter]
    refine List.filter_congr fun c _ => ?_
    cases hc : c.isClass with
    | false => rfl
    | true => simp [Node.isType_of_isClass hc]
  have htwins := (Facing.root h).twins.types
  have hplaces : List.Forall₂ (fun a b => (a, b) ∈ f.root.types.zip f'.root.types ∧
      ∃ p, Twins f.source f'.source p a b) f.root.types f'.root.types :=
    List.forall₂_iff_zip.2 ⟨htwins.length_eq, fun hab => ⟨hab, List.forall₂_zip htwins hab⟩⟩
  rw [hclasses, hclasses]
  -- first the classes among the types, then those that are accepted
  refine (filter_forall₂ (filter_forall₂ hplaces ?_) ?_).imp fun a b hab => hab.2.2.1
  · rintro a b ⟨-, p, hab⟩
    exact Twins.correspondence.isClass_eq hab
  · rintro a b ⟨-, -, p, hab⟩
    exact Twins.correspondence.accepts_eq hab filter

theorem boundNames_eq (h : f.outline = f'.outline) (hspans : f.DistinctSpans)
    (hspans' : f'.DistinctSpans) (filter : Filter) :
    f.boundNames filter = f'.boundNames filter :=
  filterMap_eq_of_forall₂ (forall₂_candidates h filter) fun _ _ => lookup_eq h hspans hspans'

end

/-! ### Sets of files -/

/-- Two lists of files have the same outlines one by one, and in each file the types stand at
different places. -/
structure Reformatted (files others : List SourceFile) : Prop where
  outlines : files.map SourceFile.outline = others.map SourceFile.outline
  spans : ∀ f ∈ files, f.DistinctSpans
  spans' : ∀ f ∈ others, f.DistinctSpans

namespace Reformatted

open Sources

variable {files others : List SourceFile} {b : Bool}

theorem forall₂ (h : Reformatted files others) :
    List.Forall₂ (fun f f' => f.outline = f'.outline) files others :=
  map_eq_map_iff_forall₂.1 h.outlines

theorem declarationsOf (h : Reformatted files others) (q : String) :
    List.Forall₂ (fun entry entry' => SameType entry.1 entry'.1 entry.2 entry'.2)
      ((Sources.mk b files).declarationsOf q) ((Sources.mk b others).declarationsOf q) := by
  refine List.rel_flatMap h.forall₂ ?_
  intro f f' hf
  rw [List.forall₂_map_left_iff, List.forall₂_map_right_iff]
  exact sameTypesOf hf q

theorem resolver_eq (h : Reformatted files others) :
    (Sources.mk b files).resolver = (Sources.mk b others).resolver := by
  have hknown : (Sources.mk b files).known = (Sources.mk b others).known := by
    funext q
    have hempty : ((Sources.mk b files).declarationsOf q).isEmpty =
        ((Sources.mk b others).declarationsOf q).isEmpty := by
      have hds := h.declarationsOf (b := b) q
      generalize (Sources.mk b files).declarationsOf q = ds,
        (Sources.mk b others).declarationsOf q = ds' at hds
      cases hds <;> rfl
    rw [known, known, hempty]
    rfl
  have husings : Model.globalUsings (Sources.mk b files).declarations =
      Model.globalUsings (Sources.mk b others).declarations := by
    rw [globalUsings_declarations, globalUsings_declarations]
    exact flatMap_eq_of_forall₂ h.forall₂ fun f f' hf => sameGlobalUsings hf
  rw [resolver, resolver, hknown, husings]

theorem symbol?_eq (h : Reformatted files others) (q : String) :
    ((Sources.mk b files).symbol? q).map TypeSymbol.unlocated =
      ((Sources.mk b others).symbol? q).map TypeSymbol.unlocated := by
  -- the symbol, up to its place, is put together from the declarations without their places
  have hunplaced : ∀ (S : Sources) (first : TypeDecl) (all : List TypeDecl),
      (S.symbolOf first all).unlocated =
        (S.symbolOf first.unplaced (all.map TypeDecl.unplaced)).unlocated := by
    intro S first all
    simp only [symbolOf, TypeSymbol.unlocated, List.map_map, List.any_map, List.flatMap_map]
    rfl
  have hds := h.declarationsOf (b := b) q
  rw [symbol?, symbol?]
  generalize (Sources.mk b files).declarationsOf q = ds,
    (Sources.mk b others).declarationsOf q = ds' at hds
  have hmaps : (ds.map Prod.snd).map TypeDecl.unplaced =
      (ds'.map Prod.snd).map TypeDecl.unplaced := by
    rw [List.map_map, List.map_map]
    exact map_eq_of_forall₂ hds fun _ _ hentry => hentry.unplaced
  cases hds with
  | nil => rfl
  | @cons first first' _ _ hfirst _ =>
    simp only [Option.map_some, symbolOf_eq_of_resolver h.resolver_eq]
    rw [hunplaced, hunplaced _ first'.2, hfirst.unplaced, hmaps]

theorem membersOf_eq (h : Reformatted files others) {q : String} (hq : q ≠ "") :
    ((Sources.mk b files).model.membersOf q).map MemberSymbol.unlocated =
      ((Sources.mk b others).model.membersOf q).map MemberSymbol.unlocated := by
  rw [membersOf_model hq, membersOf_model hq, List.map_flatMap, List.map_flatMap, h.resolver_eq]
  refine flatMap_eq_of_forall₂ (h.declarationsOf q) fun entry entry' hentry => ?_
  have hscope : entry.2.scope = entry'.2.scope := hentry.congr _ fun _ => rfl
  have hunlocated : ∀ (r : Model.Resolver) (ms : List MemberDecl) (scope : Scope),
      (ms.map fun m => r.memberSymbol m scope).map MemberSymbol.unlocated =
        (ms.map MemberDecl.unlocated).map fun m => (r.memberSymbol m scope).unlocated := by
    intro r ms scope
    rw [List.map_map, List.map_map]
    rfl
  rw [hunlocated, hunlocated, hentry.members, hscope]

/-- **Files that are reformatted agree on all names.** -/
theorem agree (h : Reformatted files others) :
    Agree (fun _ => True) (Sources.mk b files) (Sources.mk b others) where
  symbol q _ := h.symbol?_eq q
  members _ _ hq := h.membersOf_eq hq
  bases _ _ _ _ _ _ := trivial
  types _ _ _ _ _ _ _ := trivial

/-- **The same types have work**, in the same order. -/
theorem names_eq (h : Reformatted files others) (config : Config) :
    Pass.names config files = Pass.names config others := by
  have hbound : files.flatMap (SourceFile.boundNames config.filter) =
      others.flatMap (SourceFile.boundNames config.filter) := by
    have hspans : List.Forall₂ (fun f f' => f.DistinctSpans ∧ f'.DistinctSpans ∧
        f.outline = f'.outline) files others :=
      List.forall₂_iff_zip.2 ⟨h.forall₂.length_eq, fun hff' =>
        ⟨h.spans _ (List.of_mem_zip hff').1, h.spans' _ (List.of_mem_zip hff').2,
          List.forall₂_zip h.forall₂ hff'⟩⟩
    refine flatMap_eq_of_forall₂ hspans ?_
    rintro f f' ⟨hf, hf', houtline⟩
    exact boundNames_eq houtline hf hf' config.filter
  have hitems : (config.sources files).itemOf? = (config.sources others).itemOf? := by
    funext i q
    exact h.agree.itemOf?_eq trivial
  rw [Pass.names, Pass.names, hbound, hitems]

end Reformatted

/-- **Formatting and comments do not influence the output.**  Passes over files with the same
outlines, in which the types stand at different places, have results with the same work items,
sources and number of candidates, and with the same findings up to their places. -/
theorem formatting_irrelevant (config : Config) (files others : List SourceFile)
    (h : Reformatted files others) :
    ∃ r r', (Pass.ofFiles config files).result = .ok r ∧
      (Pass.ofFiles config others).result = .ok r' ∧
      r.workItems = r'.workItems ∧ r.artifacts = r'.artifacts ∧
      r.candidateCount = r'.candidateCount ∧
      r.findings.map Finding.unlocated = r'.findings.map Finding.unlocated := by
  obtain ⟨r, hr, hyields⟩ := Pass.exists_yields config files
  obtain ⟨r', hr', hyields'⟩ := Pass.exists_yields config others
  have hagree : Sources.Agree (fun _ => True) (config.sources files) (config.sources others) :=
    h.agree
  have hitems : r.workItems = r'.workItems := by
    rw [hyields.workItems, hyields'.workItems, h.names_eq]
    exact List.filterMap_congr fun q _ => hagree.itemOf?_eq trivial
  refine ⟨r, r', hr, hr', hitems, ?_, ?_, ?_⟩
  · rw [hyields.artifacts, hyields'.artifacts, hitems]
  · rw [hyields.candidateCount, hyields'.candidateCount, Candidate.length_collect,
      Candidate.length_collect, List.length_flatMap, List.length_flatMap]
    exact congrArg List.sum (map_eq_of_forall₂ h.forall₂ fun f f' hf =>
      (forall₂_candidates hf config.filter).length_eq)
  · rw [hyields.findings, hyields'.findings, List.map_flatMap, List.map_flatMap, h.names_eq]
    exact List.flatMap_congr fun q _ => hagree.findingsOf_eq trivial _

/-- A file with a class, without any blanks that could be missing. -/
def denseFile : SourceFile :=
  .read "namespace N\x7bclass C:System.IDisposable\x7bC c;\x7d\x7d"

/-- A member with its type, a comment before it and blanks in it. -/
def spacedMembers : List Node :=
  [leafAt "comment" none ⟨54, 59⟩,
    nodeAt "field_declaration" none ⟨60, 65⟩
      [nodeAt "variable_declaration" none ⟨60, 64⟩
        [leafAt "type" (some "type") ⟨60, 61⟩,
          nodeAt "variable_declarator" none ⟨63, 64⟩
            [leafAt "identifier" (some "name") ⟨63, 64⟩]]]]

/-- The same class with blanks and comments. -/
def spacedFile : SourceFile :=
  ⟨.ofString "spaced.cs",
    Text.encode
      "/*a*/ namespace N\x7bclass C: /*b*/System . IDisposable\x7b /*c*/ C  c; \x7d\x7d",
    nodeAt "compilation_unit" none ⟨0, 68⟩
      [leafAt "comment" none ⟨0, 5⟩,
        nodeAt "namespace_declaration" none ⟨6, 68⟩
          [leafAt "name" (some "name") ⟨16, 17⟩,
            nodeAt "declaration_list" (some "body") ⟨17, 68⟩
              [nodeAt "class_declaration" none ⟨18, 67⟩
                [leafAt "identifier" (some "name") ⟨24, 25⟩,
                  nodeAt "base_list" none ⟨25, 52⟩
                    [leafAt "comment" none ⟨27, 32⟩, leafAt "type" none ⟨32, 52⟩],
                  nodeAt "declaration_list" (some "body") ⟨52, 67⟩ spacedMembers]]]]⟩

theorem formatting_irrelevant_spacedFile :
    Reformatted [denseFile] [spacedFile] ∧
      ∃ r r', (Pass.ofFiles .standard [denseFile]).result = .ok r ∧
        (Pass.ofFiles .standard [spacedFile]).result = .ok r' ∧
        r.workItems.map (fun item => (item.qualifiedName, item.memberNames)) = [("N.C", ["c"])] ∧
        r.workItems = r'.workItems ∧
        r.findings.map Finding.unlocated = r'.findings.map Finding.unlocated := by
  have hspans : denseFile.DistinctSpans ∧ spacedFile.DistinctSpans := by
    unfold SourceFile.DistinctSpans
    decide +kernel
  have hreformatted : Reformatted [denseFile] [spacedFile] :=
    ⟨by decide +kernel, by simpa using hspans.1, by simpa using hspans.2⟩
  have hitems : ((Pass.ofFiles .standard [denseFile]).result.toOption.map fun r =>
      r.workItems.map fun item => (item.qualifiedName, item.memberNames)) =
        some [("N.C", ["c"])] := by decide +kernel
  obtain ⟨r, r', hr, hr', hsame, -, -, hfindings⟩ :=
    formatting_irrelevant .standard [denseFile] [spacedFile] hreformatted
  rw [hr] at hitems
  exact ⟨hreformatted, r, r', hr, hr', Option.some.inj hitems, hsame, hfindings⟩

end Disposal
