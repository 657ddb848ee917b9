import Disposal.Proofs.Disposing
import Disposal.Proofs.Generation
import Disposal.Proofs.Strictness

/-!
# The names of generated classes

A generated class bears the names of the first declaration of its type: the namespace that this
stands in and the text of its name.  The namespace is never empty, but nothing keeps a class whose
name is missing from getting code.  A type is all that is declared under one qualified name,
whatever type parameters it has, and the header of the generated class has none.

* `Pass.first_of_mem_work`: where the names of a work item come from;
* `workItems_named` says which names can be empty, and `className_empty_missingName` is a class
  whose name is missing;
* `Program.classHeader?` reads the header of a class back from a text, and
  `Program.classHeader?_render` says what it reads from a generated one;
* `contributors_share_name` puts together what the declarations of one type have in common, and
  `identities_differ_mixedFiles` are declarations of one type that are told apart by more.
-/

namespace Disposal

open Declaration Reader

/-! ### Names of work items -/

theorem Text.compact_eq_empty {s : String} :
    compact s = "" ↔ ∀ c ∈ s.toList, isBlank c = true := by
  rw [← String.toList_eq_nil_iff, toList_compact, compactChars, List.filter_eq_nil_iff]
  simp

namespace Pass

variable {config : Config} {files : List SourceFile}

theorem first_of_mem_work {w : WorkItem × TypeSymbol × Candidate} (h : w ∈ work config files) :
    ∃ f first rest, (config.sources files).declarationsOf w.1.qualifiedName = (f, first) :: rest ∧
      w.1.namespaceName = first.namespaceName ∧ w.1.className = first.name := by
  obtain ⟨interface, -, ht, -, hitem⟩ := mem_work h
  have hname : w.1.qualifiedName = w.2.1.qualifiedName := (qualifiedName_of_mem_work h).1
  obtain ⟨f, first, rest, hds, -⟩ := (mem_workNames.1 (List.mem_map_of_mem h)).2.place
  rw [Provider.workName, ← hname] at hds
  rw [← hname, Sources.symbol?, hds] at ht
  -- the work item takes its names from the symbol, and the symbol from the first declaration
  refine ⟨f, first, rest, hds, ?_, ?_⟩
  · rw [hitem, ← Option.some.inj ht]
    rfl
  · rw [hitem, ← Option.some.inj ht]
    rfl

end Pass

/-- **Every work item has a namespace**, and its class has a name unless the name of the first
declaration is missing: the text at its name is nothing but blanks. -/
theorem workItems_named (config : Config) (files : List SourceFile) :
    ∃ result, (Pass.ofFiles config files).result = .ok result ∧
      ∀ item ∈ result.workItems, item.namespaceName ≠ "" ∧
        ∃ f first rest name,
          (config.sources files).declarationsOf item.qualifiedName = (f, first) :: rest ∧
          first.node.childInField? "name" = some name ∧
          (item.className = "" ↔ ∀ c ∈ (name.text f.source).toList, Text.isBlank c = true) := by
  obtain ⟨result, hresult, hitems, -⟩ := Pass.result_ofFiles config files
  refine ⟨result, hresult, fun item hitem => ?_⟩
  rw [hitems] at hitem
  obtain ⟨w, hw, rfl⟩ := List.mem_map.1 hitem
  obtain ⟨f, first, rest, hds, -, hclass⟩ := Pass.first_of_mem_work hw
  have hfirst : (f, first) ∈ (config.sources files).declarationsOf w.1.qualifiedName := by
    rw [hds]
    exact List.mem_cons_self
  obtain ⟨scope, outer, kind, name, -, hname, hread⟩ :=
    f.typeDecls_reads first (Sources.mem_declarationsOf.1 hfirst).2.1
  have htext : first.name = name.name f.source := by
    rw [hread]
    rfl
  refine ⟨(Pass.qualifiedName_of_mem_work hw).2, f, first, rest, name, hds, hname, ?_⟩
  rw [hclass, htext, Node.name, Text.compact_eq_empty]

/-- A class in a namespace that names the disposal interface; its own name is missing. -/
def missingName : SourceFile where
  path := .ofString "a.cs"
  source := Text.encode "namespace N\x7bpartial class:System.IDisposable\x7b\x7d\x7d"
  root := nodeAt "compilation_unit" none ⟨0, 47⟩
    [nodeAt "namespace_declaration" none ⟨0, 47⟩
      [leafAt "identifier" (some "name") ⟨10, 11⟩,
        nodeAt "declaration_list" (some "body") ⟨11, 47⟩
          [nodeAt "class_declaration" none ⟨12, 46⟩
            [leafAt "modifier" none ⟨12, 19⟩,
              .mk { kind := "identifier", field := some "name", start := 25, stop := some 25,
                    missing := true } [],
              nodeAt "base_list" none ⟨25, 44⟩ [leafAt "qualified_name" none ⟨26, 44⟩],
              leafAt "declaration_list" (some "body") ⟨44, 46⟩]]]]

/-- A class whose name is missing gets code that does not name it either. -/
theorem className_empty_missingName : ∃ result item,
    (Pass.ofFiles {} [missingName]).result = .ok result ∧ result.workItems = [item] ∧
      item.namespaceName = "N" ∧ item.className = "" := by
  obtain ⟨result, hresult, -⟩ := Pass.result_ofFiles {} [missingName]
  have hitems : ((Pass.ofFiles {} [missingName]).result.toOption.map PassResult.workItems) =
      some [{ namespaceName := "N" }] := by decide +kernel
  rw [hresult] at hitems
  exact ⟨result, _, hresult, Option.some.inj hitems, rfl, rfl⟩

/-! ### Identities of types -/

/-- What tells a type from others: the namespace that it is declared in, its identifier, and the
number of its type parameters. -/
structure TypeIdentity where
  namespaceName : String
  identifier : String
  typeParameterCount : Nat
  deriving DecidableEq, Repr

/-- The identity of the type that a declaration declares. -/
def TypeDecl.identity (d : TypeDecl) : TypeIdentity where
  namespaceName := d.namespaceName
  identifier := d.name
  typeParameterCount := MemberDecl.countChildren ["type_parameter"]
    ((d.node.childInField? "type_parameters").orElse fun _ =>
      d.node.childOfKind? "type_parameter_list")

/-- The dotted name of what a declaration stands in: the type around it, or else its namespace. -/
def TypeDecl.outerName (d : TypeDecl) : String :=
  match d.containingType with
  | none => d.namespaceName
  | some outer => if outer = "" then d.namespaceName else outer

theorem Declaration.Reads.qualifiedName_eq_joinName {f : SourceFile} {d : TypeDecl}
    (h : Reads f d) : d.qualifiedName = joinName d.outerName d.name := by
  rw [h.qualifiedName_eq, TypeDecl.outerName]
  cases d.containingType with
  | none => rfl
  | some outer =>
    by_cases houter : outer = ""
    · simp [houter]
    · simp [houter, joinName]

theorem Filter.isLastSegment_joinName {outer name : String} (h : '.' ∉ name.toList) :
    IsLastSegment (joinName outer name) name := by
  rw [joinName]
  split_ifs
  · exact ⟨h, .inl rfl⟩
  · exact ⟨h, .inr ⟨outer, rfl⟩⟩

theorem joinName_inj {outer outer' name name' : String} (houter : outer' ≠ "")
    (hdot : '.' ∉ name.toList) (hdot' : '.' ∉ name'.toList)
    (h : joinName outer name = joinName outer' name') : name = name' ∧ outer = outer' := by
  obtain rfl : name = name' := by
    rw [Filter.eq_lastSegment (Filter.isLastSegment_joinName hdot), h]
    exact (Filter.eq_lastSegment (Filter.isLastSegment_joinName hdot')).symm
  refine ⟨rfl, ?_⟩
  rw [joinName, joinName, if_neg houter] at h
  split_ifs at h with hempty
  · -- a name is not what ends with a dot and the name itself
    have hlength := congrArg String.length h
    rw [String.length_append, String.length_append] at hlength
    have hone : ".".length = 1 := rfl
    omega
  · have hlists := congrArg String.toList h
    simp only [String.toList_append, List.append_assoc] at hlists
    exact String.toList_inj.1 (List.append_cancel_right hlists)

/-! ### Headers in a text -/

namespace Program

/-- The number of type parameters in the words behind a name. -/
def typeParameterCount : List String → Nat
  | "<" :: ws => (ws.takeWhile (· ≠ ">")).count "," + 1
  | _ => 0

/-- The identifier and the number of type parameters of the class that some words declare. -/
def classOf? (header : List String) : Option (String × Nat) :=
  match header.dropWhile (· ≠ "class") with
  | _ :: name :: rest => some (name, typeParameterCount rest)
  | _ => none

/-- The identity of the class that a text declares: one class in one namespace, behind a using
directive. -/
def classHeader? (text : String) : Option TypeIdentity :=
  match items? (words text) with
  | some [.simple ("using" :: _), .block ("namespace" :: outer) [.block header _]] =>
    (classOf? header).map fun c => ⟨String.join outer, c.1, c.2⟩
  | _ => none

theorem IsDotted.join_words {s : String} (h : IsDotted s) : String.join (words s) = s := by
  induction h with
  | name h => rw [h.words_eq, String.join_cons, String.join_nil, String.append_empty]
  | dot h _ ih => rw [h.words_dot, String.join_cons, String.join_cons, ih, String.append_assoc]

/-- **The header of a generated class** declares a class with the names of the work item and
without type parameters. -/
theorem classHeader?_render {item : WorkItem} (hnamespace : IsDotted item.namespaceName)
    (hclass : IsName item.className) (hmembers : ∀ m ∈ item.memberNames, IsName m) :
    classHeader? item.render = some ⟨item.namespaceName, item.className, 0⟩ := by
  have hitems := (WorkItem.readsAs_lines hnamespace hclass hmembers).items?_eq
  rw [← words_text] at hitems
  have hmodifiers : ∀ w ∈ words item.accessibility.text ++ ["partial"],
      decide (w ≠ "class") = true := by
    cases item.accessibility <;> decide
  have hheader : classOf? (words item.accessibility.text ++ ["partial", "class", item.className]) =
      some (item.className, 0) := by
    rw [List.append_cons, classOf?, List.dropWhile_append_of_pos hmodifiers]
    rfl
  rw [classHeader?, WorkItem.render, hitems]
  simp only [hheader, Option.map_some, hnamespace.join_words]

example : classHeader?
    "using System;\n\nnamespace N.M\n\x7b\n    class A<T, U>\n    \x7b\x7d\n\x7d" =
    some ⟨"N.M", "A", 2⟩ := by decide +kernel

end Program

/-- The declarations of the type of a work item and the header of its source declare one type. -/
def Pass.KeepsIdentity (config : Config) (files : List SourceFile) (item : WorkItem) : Prop :=
  ∃ i : TypeIdentity, Program.classHeader? item.render = some i ∧
    ∀ entry ∈ (config.sources files).declarationsOf item.qualifiedName, entry.2.identity = i

/-- **The declarations of one type share their name.**  A pass has a result.  All declarations of
the type of a work item that are named by an identifier have the identifier of the work item, and
stand in what is called like its namespace; and the header of its source, with names that can stand
there, declares a class with that namespace and identifier and without type parameters. -/
theorem contributors_share_name (config : Config) (files : List SourceFile) :
    ∃ result, (Pass.ofFiles config files).result = .ok result ∧
      ∀ item ∈ result.workItems,
        (∀ entry ∈ (config.sources files).declarationsOf item.qualifiedName,
          '.' ∉ entry.2.name.toList → '.' ∉ item.className.toList →
            entry.2.name = item.className ∧ entry.2.outerName = item.namespaceName ∧
            (entry.2.containingType = none → entry.2.namespaceName = item.namespaceName)) ∧
        (Program.IsDotted item.namespaceName → Program.IsName item.className →
          (∀ m ∈ item.memberNames, Program.IsName m) →
            Program.classHeader? item.render =
              some ⟨item.namespaceName, item.className, 0⟩) := by
  obtain ⟨result, hresult, hitems, -⟩ := Pass.result_ofFiles config files
  refine ⟨result, hresult, fun item hitem => ⟨fun entry hentry hdot hdot' => ?_,
    Program.classHeader?_render⟩⟩
  rw [hitems] at hitem
  obtain ⟨w, hw, rfl⟩ := List.mem_map.1 hitem
  obtain ⟨-, hmem, hname⟩ := Sources.mem_declarationsOf.1 hentry
  rw [(entry.1.typeDecls_reads entry.2 hmem).qualifiedName_eq_joinName] at hname
  obtain ⟨hsame, houter⟩ :=
    joinName_inj (Pass.qualifiedName_of_mem_work hw).2 hdot hdot' hname
  refine ⟨hsame, houter, fun houtermost => ?_⟩
  rw [← houter, TypeDecl.outerName, houtermost]

/-- Two classes with one identifier in one namespace: the first has a type parameter and names the
disposal interface, the second has a member to dispose. -/
def genericFile : SourceFile where
  path := .ofString "a.cs"
  source := Text.encode ("namespace N\x7bpartial class A<T>:System.IDisposable\x7b\x7d" ++
    "partial class A\x7bSystem.IO.Stream s;\x7d\x7d")
  root := nodeAt "compilation_unit" none ⟨0, 88⟩
    [nodeAt "namespace_declaration" none ⟨0, 88⟩
      [leafAt "identifier" (some "name") ⟨10, 11⟩,
        nodeAt "declaration_list" (some "body") ⟨11, 88⟩
          [nodeAt "class_declaration" none ⟨12, 51⟩
            [leafAt "modifier" none ⟨12, 19⟩, leafAt "identifier" (some "name") ⟨26, 27⟩,
              nodeAt "type_parameter_list" none ⟨27, 30⟩ [leafAt "type_parameter" none ⟨28, 29⟩],
              nodeAt "base_list" none ⟨30, 49⟩ [leafAt "qualified_name" none ⟨31, 49⟩],
              leafAt "declaration_list" (some "body") ⟨49, 51⟩],
          nodeAt "class_declaration" none ⟨51, 87⟩
            [leafAt "modifier" none ⟨51, 58⟩, leafAt "identifier" (some "name") ⟨65, 66⟩,
              nodeAt "declaration_list" (some "body") ⟨66, 87⟩
                [nodeAt "field_declaration" none ⟨67, 86⟩
                  [nodeAt "variable_declaration" none ⟨67, 85⟩
                    [leafAt "qualified_name" (some "type") ⟨67, 83⟩,
                      nodeAt "variable_declarator" none ⟨84, 85⟩
                        [leafAt "identifier" (some "name") ⟨84, 85⟩]]]]]]]]

/-- Such a file, and one with a class in a namespace that is called like another class with a class
in it. -/
def mixedFiles : List SourceFile :=
  [genericFile, .read ("namespace P.Q\x7bpartial class B:System.IDisposable\x7b\x7d\x7d" ++
    "namespace P\x7bclass Q\x7bpartial class B\x7bSystem.IO.Stream s;\x7d\x7d\x7d")]

/-- Types that differ in the number of their type parameters, or in where they are declared, are
taken for one. -/
theorem identities_differ_mixedFiles : ∃ result,
    (Pass.ofFiles {} mixedFiles).result = .ok result ∧
      result.workItems.map (fun item => (item.qualifiedName, item.memberNames)) =
        [("N.A", ["s"]), ("P.Q.B", ["s"])] ∧
      ∀ item ∈ result.workItems, ¬ Pass.KeepsIdentity {} mixedFiles item := by
  obtain ⟨result, hresult, -⟩ := Pass.result_ofFiles {} mixedFiles
  have hitems : ((Pass.ofFiles {} mixedFiles).result.toOption.map PassResult.workItems) =
      some [{ namespaceName := "N", className := "A", memberNames := ["s"] },
        { namespaceName := "P.Q", className := "B", memberNames := ["s"] }] := by decide +kernel
  rw [hresult] at hitems
  have hitems : result.workItems = _ := Option.some.inj hitems
  have hgeneric : ((Config.sources {} mixedFiles).declarationsOf "N.A").map
      (fun entry => entry.2.identity) = [⟨"N", "A", 1⟩, ⟨"N", "A", 0⟩] := by decide +kernel
  have hnested : ((Config.sources {} mixedFiles).declarationsOf "P.Q.B").map
      (fun entry => entry.2.identity) = [⟨"P.Q", "B", 0⟩, ⟨"P", "B", 0⟩] := by decide +kernel
  -- one identity would be both of two different ones
  have hdiffer : ∀ (item : WorkItem) (i j : TypeIdentity), i ≠ j →
      ((Config.sources {} mixedFiles).declarationsOf item.qualifiedName).map
        (fun entry => entry.2.identity) = [i, j] → ¬ Pass.KeepsIdentity {} mixedFiles item := by
    rintro item i j hne hmap ⟨same, -, hsame⟩
    have hall : ∀ k ∈ [i, j], k = same := by
      rw [← hmap]
      intro k hk
      obtain ⟨entry, hentry, rfl⟩ := List.mem_map.1 hk
      exact hsame entry hentry
    exact hne ((hall i (by simp)).trans (hall j (by simp)).symm)
  refine ⟨result, hresult, ?_, ?_⟩
  · rw [hitems]
    decide
  · rw [hitems]
    refine List.forall_mem_cons.2 ⟨hdiffer _ _ _ (by decide) hgeneric,
      List.forall_mem_singleton.2 (hdiffer _ _ _ (by decide) hnested)⟩

end Disposal
