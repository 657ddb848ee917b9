import Disposal.Proofs.Partial

/-!
# Members that are declared twice

A generated class is part of a class that is written by hand, and a member that both declare is
declared twice.  A type gets no code if one of its declarations has the method `void Dispose()`;
this is the only member that is looked for.

* `Emitted` are the members that generated classes can have, and `WorkItem.heads_members` says that
  the lines of a generated class are those of `WorkItem.emitted`;
* `Sources.Redeclared` says that a declaration of a type has one of these members already;
* `Sources.Wants` are the conditions on a type to get code, apart from its members;
* `void_dispose_not_redeclared` puts these together, and `members_redeclared_clashingFile` is a
  class that has every generated member already.
-/

namespace Disposal

open Artifact Reader

/-! ### Generated members -/

/-- The members of generated classes. -/
inductive Emitted where
  | flag
  | publicDispose
  | privateDispose
  | finalizer
  deriving DecidableEq, Repr

namespace Emitted

/-- All members, in the order they stand in a generated class. -/
def all : List Emitted := [.flag, .publicDispose, .privateDispose, .finalizer]

/-- Whether a member is generated for a work item. -/
def isNeeded (item : WorkItem) : Emitted → Bool
  | .flag | .privateDispose => item.hasWork
  | .publicDispose => true
  | .finalizer => item.unmanagedHook

/-- The line that a generated member starts with. -/
def head (item : WorkItem) : Emitted → Line
  | .flag => .code 2 ("private bool " ++ disposedFlag ++ " = false;")
  | .publicDispose => .code 2 "public void Dispose()"
  | .privateDispose => .code 2 ("private void Dispose(bool " ++ disposingParameter ++ ")")
  | .finalizer => .code 2 ("~" ++ item.className ++ "() => Dispose(false);")

end Emitted

/-- The members of the class that is generated for a work item. -/
def WorkItem.emitted (item : WorkItem) : List Emitted := Emitted.all.filter (Emitted.isNeeded item)

theorem WorkItem.mem_emitted {item : WorkItem} {e : Emitted} :
    e ∈ item.emitted ↔ e.isNeeded item = true := by
  have hall : e ∈ Emitted.all := by cases e <;> decide
  rw [emitted, List.mem_filter, and_iff_right hall]

theorem WorkItem.heads_members (item : WorkItem) :
    item.members.map List.head? = item.emitted.map fun e => some (e.head item) := by
  rw [members, emitted, Emitted.all]
  cases hwork : item.hasWork <;> cases hhook : item.unmanagedHook <;>
    simp [List.filter_cons, Emitted.isNeeded, hwork, hhook, publicDispose, privateDispose, block,
      Emitted.head]

/-! ### Written members -/

/-- A member is a method `Dispose` without type parameters. -/
def MemberDecl.isDispose (parameterCount : Nat) (m : MemberDecl) : Bool :=
  m.kind == .method && m.name == disposeMethod && m.parameterCount == parameterCount &&
    m.typeParameterCount == 0

/-- The written types of the parameters of a method. -/
def Node.parameterTypes (source : Text.Bytes) (n : Node) : List (Option String) :=
  let list? := (n.childInField? "parameters").orElse fun _ => n.childOfKind? "parameter_list"
  list?.elim [] fun list =>
    (list.namedChildren.filter fun c => ["parameter", "parameter_array"].contains c.kind).map
      fun c => (c.childInField? "type").map fun t => t.name source

/-- Whether a node in the body of a type declares a member that generated classes have: a field or
property with the name of the flag, a method `Dispose` without parameters, one with a parameter
that is a truth value, or a finalizer. -/
def Emitted.isDeclaredBy (f : SourceFile) (n : Node) : Emitted → Bool
  | .flag => (MemberDecl.ofNode f n).any fun m =>
    (m.kind == .field || m.kind == .property) && m.name == disposedFlag
  | .publicDispose => (MemberDecl.ofNode f n).any (MemberDecl.isDispose 0)
  | .privateDispose => (MemberDecl.ofNode f n).any (MemberDecl.isDispose 1) &&
    n.parameterTypes f.source == [some "bool"]
  | .finalizer => n.kind == "destructor_declaration"

theorem MemberDecl.isParameterlessVoid_iff {m : MemberDecl} :
    m.IsParameterlessVoid disposeMethod ↔ m.isDispose 0 = true ∧ m.returnsVoid = true := by
  simp only [IsParameterlessVoid, isDispose, Bool.and_eq_true, beq_iff_eq, and_assoc]

namespace Sources

variable {S : Sources} {i q : String} {filter : Filter}

/-- Some declaration of the type named `q` declares a member that generated classes have. -/
def Redeclared (S : Sources) (q : String) (e : Emitted) : Prop :=
  ∃ entry ∈ S.declarationsOf q, ∃ n ∈ entry.2.node.memberNodes, e.isDeclaredBy entry.1 n = true

instance (S : Sources) (q : String) (e : Emitted) : Decidable (S.Redeclared q e) :=
  inferInstanceAs (Decidable (∃ entry ∈ S.declarationsOf q, ∃ n ∈ entry.2.node.memberNodes,
    e.isDeclaredBy entry.1 n = true))

/-- Some declaration of the type named `q` declares the method `void Dispose()`. -/
def HasVoidDispose (S : Sources) (q : String) : Prop :=
  ∃ entry ∈ S.declarationsOf q, ∃ n ∈ entry.2.node.memberNodes,
    ∃ m ∈ MemberDecl.ofNode entry.1 n, m.isDispose 0 = true ∧ m.returnsVoid = true

theorem hasMethod_dispose : S.HasMethod q disposeMethod ↔ S.HasVoidDispose q := by
  simp only [hasMethod_iff_exists_mem, MemberDecl.isParameterlessVoid_iff, HasVoidDispose]

/-- The conditions on the type named `q` to get code, apart from its members: it has a candidate,
its first declaration is a class, not nested and in a namespace, and the disposal interface, a known
interface, is among its bases and their bases. -/
def Wants (S : Sources) (filter : Filter) (i q : String) : Prop :=
  S.Bound filter q ∧ S.kindOf? i = some .interfaceType ∧
    (∃ f first rest, S.declarationsOf q = (f, first) :: rest ∧ first.kind = .classType ∧
      first.containingType = none ∧ first.namespaceName ≠ "") ∧
    Relation.TransGen S.Base q i

/-- A type that wants code gets it unless it has the method `void Dispose()`. -/
theorem bound_and_eligible_iff :
    S.Bound filter q ∧ S.Eligible i q ↔ S.Wants filter i q ∧ ¬ S.HasVoidDispose q := by
  rw [← hasMethod_dispose]
  constructor
  · rintro ⟨hbound, hinterface, hplace, hbased, hopen⟩
    exact ⟨⟨hbound, hinterface, hplace, hbased⟩, hopen⟩
  · rintro ⟨⟨hbound, hinterface, hplace, hbased⟩, hopen⟩
    exact ⟨hbound, hinterface, hplace, hbased, hopen⟩

end Sources

/-! ### Passes -/

/-- **A written `void Dispose()` is never declared again.**  A pass has a result.  Its work items
are those of the types that want code and have no method `void Dispose()`, whatever other members
they have.  The class that is generated for a work item declares `Dispose()`, the flag and
`Dispose(bool)` if there is something to clean up, and the finalizer if there is a hook for
unmanaged resources; where a declaration of its type has a method `Dispose()` already, that one is
not void. -/
theorem void_dispose_not_redeclared (config : Config) (files : List SourceFile) :
    ∃ result, (Pass.ofFiles config files).result = .ok result ∧
      (∀ q, q ∈ result.workItems.map WorkItem.qualifiedName ↔
        (config.sources files).Wants config.filter config.disposalInterface q ∧
          ¬ (config.sources files).HasVoidDispose q) ∧
      ∀ item ∈ result.workItems,
        item.members.map List.head? = item.emitted.map (fun e => some (e.head item)) ∧
        .publicDispose ∈ item.emitted ∧
        (.flag ∈ item.emitted ↔ item.hasWork = true) ∧
        (.privateDispose ∈ item.emitted ↔ item.hasWork = true) ∧
        (.finalizer ∈ item.emitted ↔ item.unmanagedHook = true) ∧
        ∀ entry ∈ (config.sources files).declarationsOf item.qualifiedName,
          ∀ n ∈ entry.2.node.memberNodes, ∀ m ∈ MemberDecl.ofNode entry.1 n,
            m.isDispose 0 = true → m.returnsVoid = false := by
  obtain ⟨result, hresult, hitems, -⟩ := Pass.result_ofFiles config files
  have hnames : ∀ q, q ∈ result.workItems.map WorkItem.qualifiedName ↔
      (config.sources files).Wants config.filter config.disposalInterface q ∧
        ¬ (config.sources files).HasVoidDispose q := by
    intro q
    rw [hitems, Pass.map_qualifiedName_work, Pass.mem_workNames, Sources.bound_and_eligible_iff]
  refine ⟨result, hresult, hnames, fun item hitem => ⟨item.heads_members, ?_, ?_, ?_, ?_, ?_⟩⟩
  · exact WorkItem.mem_emitted.2 rfl
  · exact WorkItem.mem_emitted
  · exact WorkItem.mem_emitted
  · exact WorkItem.mem_emitted
  · intro entry hentry n hn m hm hdispose
    rw [← Bool.not_eq_true]
    intro hvoid
    exact ((hnames _).1 (List.mem_map_of_mem hitem)).2
      ⟨entry, hentry, n, hn, m, hm, hdispose, hvoid⟩

/-- A method as in `int A(bool b);`, with its returned type, its name and its list of parameters. -/
def methodNode (span returned name list : Span) (parameters : List Node) : Node :=
  nodeAt "method_declaration" none span
    [leafAt "predefined_type" (some "returns") returned, leafAt "identifier" (some "name") name,
      nodeAt "parameter_list" (some "parameters") list parameters]

/-- A class that is written with all members that are generated. -/
def clashingFile : SourceFile where
  path := .ofString "a.cs"
  source := Text.encode ("namespace N\x7bpartial class C:System.IDisposable\x7b" ++
    "int Dispose()=>0;bool _isDisposed;void Dispose(bool b)\x7b\x7d~C()\x7b\x7d" ++
    "void DisposeUnmanaged()\x7b\x7d\x7d\x7d")
  root := nodeAt "compilation_unit" none ⟨0, 136⟩
    [nodeAt "namespace_declaration" none ⟨0, 136⟩
      [leafAt "identifier" (some "name") ⟨10, 11⟩,
        nodeAt "declaration_list" (some "body") ⟨11, 136⟩
          [nodeAt "class_declaration" none ⟨12, 135⟩
            [leafAt "modifier" none ⟨12, 19⟩, leafAt "identifier" (some "name") ⟨26, 27⟩,
              nodeAt "base_list" none ⟨27, 46⟩ [leafAt "qualified_name" none ⟨28, 46⟩],
              nodeAt "declaration_list" (some "body") ⟨46, 135⟩
                [methodNode ⟨47, 64⟩ ⟨47, 50⟩ ⟨51, 58⟩ ⟨58, 60⟩ [],
                  nodeAt "field_declaration" none ⟨64, 81⟩
                    [nodeAt "variable_declaration" none ⟨64, 80⟩
                      [leafAt "predefined_type" (some "type") ⟨64, 68⟩,
                        nodeAt "variable_declarator" none ⟨69, 80⟩
                          [leafAt "identifier" (some "name") ⟨69, 80⟩]]],
                  methodNode ⟨81, 103⟩ ⟨81, 85⟩ ⟨86, 93⟩ ⟨93, 101⟩
                    [nodeAt "parameter" none ⟨94, 100⟩
                      [leafAt "predefined_type" (some "type") ⟨94, 98⟩,
                        leafAt "identifier" (some "name") ⟨99, 100⟩]],
                  nodeAt "destructor_declaration" none ⟨103, 109⟩
                    [leafAt "identifier" (some "name") ⟨104, 105⟩,
                      leafAt "parameter_list" (some "parameters") ⟨105, 107⟩],
                  methodNode ⟨109, 134⟩ ⟨109, 113⟩ ⟨114, 130⟩ ⟨130, 132⟩ []]]]]]

/-- All members that are generated for a type can be declared in the type already. -/
theorem members_redeclared_clashingFile : ∃ result item,
    (Pass.ofFiles {} [clashingFile]).result = .ok result ∧ result.workItems = [item] ∧
      ∀ e ∈ Emitted.all, e ∈ item.emitted ∧
        (Config.sources {} [clashingFile]).Redeclared item.qualifiedName e := by
  obtain ⟨result, hresult, -⟩ := Pass.result_ofFiles {} [clashingFile]
  have hitems : ((Pass.ofFiles {} [clashingFile]).result.toOption.map PassResult.workItems) =
      some [{ namespaceName := "N", className := "C", unmanagedHook := true }] := by
    decide +kernel
  rw [hresult] at hitems
  exact ⟨result, _, hresult, Option.some.inj hitems, by decide +kernel⟩

end Disposal
