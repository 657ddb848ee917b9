import Disposal.Proofs.Disposing
import Disposal.Proofs.Lookup
import Disposal.Proofs.WrittenTypes

/-!
# References behind `global::`

A reference behind `global::` gives its name in full.  The qualifier is dropped and the name is
looked up like any other, so that it stands for the type of that name as long as no type has the
name below a place that is tried first.

* `Sources.Shadows`: a type has a name below one of these places;
* `Sources.global_reference_found`: a reference stands for the type that it names exactly if the
  name is not shadowed; if it is, it stands for a shadowing type;
* `Sources.global_reference_shadowedFile`: a namespace can shadow a framework type.

Predefined types are looked up by no name, so that a type with such a name is not found at all.
-/

namespace Disposal

open Declaration Reader Program

/-! ### Dotted names behind `global::` -/

namespace TypeName

theorem Written.exists_behind (id : Identifier) :
    (n : Written .name) → ∃ m : Written .name, m.dotted = id.1 ++ "." ++ n.dotted
  | .identifier next arguments => ⟨.dot (.identifier id .nil) next arguments, rfl⟩
  | .dot outer next arguments => by
    obtain ⟨m, hm⟩ := outer.exists_behind id
    refine ⟨.dot m next arguments, ?_⟩
    rw [dotted, dotted, hm]
    simp only [String.append_assoc]

theorem exists_written {q : String} (h : IsDotted q) : ∃ n : Written .name, n.dotted = q := by
  induction h with
  | @name s hs => exact ⟨.identifier ⟨s, hs⟩ .nil, rfl⟩
  | @dot s t hs rest ih =>
    obtain ⟨n, rfl⟩ := ih
    exact n.exists_behind ⟨s, hs⟩

theorem normalize?_global {q : String} (h : IsDotted q) :
    normalize? ("global::" ++ q) = if q ∈ predefined then none else some q := by
  obtain ⟨n, rfl⟩ := exists_written h
  exact normalize?_qualified true n

end TypeName

/-! ### Shadowing -/

namespace Sources

variable {S : Sources} {s : Surroundings} {o q : String}

/-- The name `q` is shadowed below `o` for a declaration with these surroundings: there is a type of
that name below a type or namespace around the declaration or below an import. -/
structure Shadows (S : Sources) (s : Surroundings) (o q : String) : Prop where
  outer : o ∈ s.typeNames ∨ (s.namespaceName ≠ "" ∧ IsDottedPrefix o s.namespaceName) ∨
    o ∈ s.imports ∨ o ∈ S.resolver.globalUsings
  known : S.known (o ++ "." ++ q) = true

theorem shadows_iff : S.Shadows s o q ↔
    o ∈ s.scope.outerNames ++ (s.imports ++ S.resolver.globalUsings) ∧
      S.known (o ++ "." ++ q) = true := by
  have houter : o ∈ s.scope.outerNames ++ (s.imports ++ S.resolver.globalUsings) ↔
      o ∈ s.typeNames ∨ (s.namespaceName ≠ "" ∧ IsDottedPrefix o s.namespaceName) ∨
        o ∈ s.imports ∨ o ∈ S.resolver.globalUsings := by
    rw [Scope.outerNames, List.mem_append, List.mem_append, List.mem_append, mem_enclosing,
      or_assoc]
    simp [Surroundings.scope]
  rw [houter]
  exact ⟨fun h => ⟨h.outer, h.known⟩, fun h => ⟨h.1, h.2⟩⟩

theorem lookup?_of_shadows (h : S.Shadows s o q) :
    ∃ p, S.Shadows s p q ∧
      s.scope.lookup? S.resolver.globalUsings S.known q = some (p ++ "." ++ q) := by
  obtain ⟨p, hp⟩ : ∃ p, (s.scope.outerNames ++ (s.imports ++ S.resolver.globalUsings)).find?
      (fun p => S.known (p ++ "." ++ q)) = some p := by
    rw [← Option.isSome_iff_exists, List.find?_isSome]
    exact ⟨o, (shadows_iff.1 h).1, h.known⟩
  refine ⟨p, shadows_iff.2 ⟨List.mem_of_find?_eq_some hp,
    (List.find?_eq_some_iff_append.1 hp).1⟩, ?_⟩
  rw [lookup?_scope, ← List.find?_append, hp]
  rfl

theorem lookup?_of_not_shadows (h : ∀ o, ¬ S.Shadows s o q) :
    s.scope.lookup? S.resolver.globalUsings S.known q = if S.known q then some q else none := by
  have hnone : (s.scope.outerNames ++ (s.imports ++ S.resolver.globalUsings)).find?
      (fun p => S.known (p ++ "." ++ q)) = none := by
    rw [List.find?_eq_none]
    exact fun p hp hknown => h p (shadows_iff.2 ⟨hp, hknown⟩)
  rw [lookup?_scope, ← List.find?_append, hnone]
  rfl

theorem dot_append_ne (o q : String) : o ++ "." ++ q ≠ q := by
  intro h
  have hlength := congrArg String.length h
  rw [String.length_append, String.length_append, show ".".length = 1 from rfl] at hlength
  omega

/-- **A reference behind `global::` stands for the type that it names exactly if the name is not
shadowed**; if it is, the reference stands for a shadowing type.  A predefined name stands for
nothing. -/
theorem global_reference_found (S : Sources) (f : SourceFile) (hf : f ∈ S.files)
    (s : Surroundings) (n : Node) (hs : f.Stands s n) (q : String) (hq : IsDotted q) :
    ∃ t, S.model.provider.typeNamed? s.qualifiedName = some t ∧
      ∃ r, S.Shows f n t ("global::" ++ q) r ∧
        ((r = if S.known q then some q else none) ↔
          if q ∈ TypeName.predefined then S.known q = false else ∀ o, ¬ S.Shadows s o q) ∧
        (q ∉ TypeName.predefined → (∃ o, S.Shadows s o q) →
          ∃ o, S.Shadows s o q ∧ r = some (o ++ "." ++ q)) := by
  obtain ⟨t, ht, hshows⟩ := shows_of_stands hf hs
  refine ⟨t, ht, _, hshows _, ?_⟩
  rw [Model.Resolver.resolve?, TypeName.normalize?_global hq]
  by_cases hpredefined : q ∈ TypeName.predefined
  · simp [hpredefined]
  · have hresolver : S.resolver.known = S.known := rfl
    simp only [if_neg hpredefined, Option.bind_some, hresolver]
    refine ⟨⟨fun hright o ho => ?_, lookup?_of_not_shadows⟩, ?_⟩
    · obtain ⟨p, -, hp⟩ := lookup?_of_shadows ho
      rw [hp] at hright
      split_ifs at hright
      exact dot_append_ne p q (Option.some.inj hright)
    · rintro - ⟨o, ho⟩
      exact lookup?_of_shadows ho

/-- A class based on the disposal interface, given in full. -/
def globalClass : Node :=
  classNode ⟨0, 36⟩ [writtenName 6, nodeAt "base_list" none ⟨7, 34⟩
    [leafAt "alias_qualified_name" none ⟨8, 34⟩]] 34 []

/-- A file with that class. -/
def globalFile : SourceFile :=
  classFile "a.cs" "class C:global::System.IDisposable\x7b\x7d" globalClass

theorem global_reference_found_globalFile :
    globalFile.Stands ⟨[], [], ["C"]⟩ globalClass ∧ IsDotted "System.IDisposable" ∧
      ∃ t, (Sources.mk true [globalFile]).model.provider.typeNamed? "C" = some t ∧
        "System.IDisposable" ∈ t.baseNames := by
  have hstands : globalFile.Stands ⟨[], [], ["C"]⟩ globalClass := by
    have hC : (writtenName 6).name globalFile.source = "C" := by decide +kernel
    have hself : Nests globalFile.source globalClass [_] globalClass := .self rfl
    have hfile : globalFile.Stands ⟨[], [], [_]⟩ globalClass := .type rfl hself
    simpa only [hC] using hfile
  have hdotted : IsDotted "System.IDisposable" := by
    have hjoin : "System.IDisposable" = "System" ++ "." ++ "IDisposable" := by decide
    rw [hjoin]
    exact .dot (by decide) (.name (by decide))
  obtain ⟨t, ht, r, hr, hright, -⟩ := global_reference_found ⟨true, [globalFile]⟩ globalFile
    List.mem_cons_self _ globalClass hstands "System.IDisposable" hdotted
  refine ⟨hstands, hdotted, t, ht, ?_⟩
  -- only the class itself is tried before the name alone
  have hfree : ∀ o, ¬ (Sources.mk true [globalFile]).Shadows ⟨[], [], ["C"]⟩ o
      "System.IDisposable" := by
    intro o ho
    have houters : Scope.outerNames (Surroundings.scope ⟨[], [], ["C"]⟩) ++ ([] ++
        (Sources.mk true [globalFile]).resolver.globalUsings) = ["C"] := by decide +kernel
    have houter := (shadows_iff.1 ho).1
    rw [houters, List.mem_singleton] at houter
    have hknown := ho.known
    rw [houter] at hknown
    revert hknown
    decide +kernel
  have hpredefined : "System.IDisposable" ∉ TypeName.predefined := by decide
  rw [if_neg hpredefined] at hright
  have hfound : r = some "System.IDisposable" := (hright.2 hfree).trans (by decide +kernel)
  exact hr.base (by decide +kernel) "System.IDisposable" (by rw [hfound]; rfl) (by decide)

/-- The same class in a namespace. -/
def shadowedClass : Node :=
  classNode ⟨12, 48⟩ [writtenName 18, nodeAt "base_list" none ⟨19, 46⟩
    [leafAt "qualified_name" none ⟨20, 46⟩]] 46 []

/-- A file where a namespace inside that one has the name of a framework namespace. -/
def shadowedFile : SourceFile where
  path := .ofString "a.cs"
  source := Text.encode <| "namespace N\x7bclass C:global::System.IDisposable\x7b\x7d\x7d" ++
    "namespace N.System\x7binterface IDisposable\x7b\x7d\x7d"
  root := nodeAt "compilation_unit" none ⟨0, 92⟩
    [nodeAt "namespace_declaration" none ⟨0, 49⟩
      [writtenName 10, nodeAt "declaration_list" (some "body") ⟨11, 49⟩ [shadowedClass]],
    nodeAt "namespace_declaration" none ⟨49, 92⟩
      [leafAt "qualified_name" (some "name") ⟨59, 67⟩,
        nodeAt "declaration_list" (some "body") ⟨67, 92⟩
          [nodeAt "interface_declaration" none ⟨68, 91⟩
            [leafAt "identifier" (some "name") ⟨78, 89⟩,
              nodeAt "declaration_list" (some "body") ⟨89, 91⟩ []]]]]

/-- In a namespace with a namespace `System` of its own, the base `global::System.IDisposable` is an
interface of that namespace, although the framework interface is known. -/
theorem global_reference_shadowedFile :
    shadowedFile.Stands ⟨["N"], [], ["C"]⟩ shadowedClass ∧
      shadowedClass.baseEntries shadowedFile.source = ["global::System.IDisposable"] ∧
      (Sources.mk true [shadowedFile]).known "System.IDisposable" = true ∧
      ∃ t, (Sources.mk true [shadowedFile]).model.provider.typeNamed? "N.C" = some t ∧
        t.baseNames = ["N.System.IDisposable"] := by
  have hstands : shadowedFile.Stands ⟨["N"], [], ["C"]⟩ shadowedClass := by
    have hN : (writtenName 10).name shadowedFile.source = "N" := by decide +kernel
    have hC : (writtenName 18).name shadowedFile.source = "C" := by decide +kernel
    have hself : Nests shadowedFile.source shadowedClass [_] shadowedClass := .self rfl
    have hfile : shadowedFile.Stands (.inNamespace ⟨[], [], [_]⟩ _) shadowedClass :=
      .inBlock rfl rfl (.type rfl hself)
    simpa only [hN, hC, Surroundings.inNamespace] using hfile
  have hbases : ((Sources.mk true [shadowedFile]).model.provider.typeNamed? "N.C").map
      TypeSymbol.baseNames = some ["N.System.IDisposable"] := by decide +kernel
  exact ⟨hstands, by decide +kernel, by decide +kernel, Option.map_eq_some_iff.1 hbases⟩

end Sources

end Disposal
