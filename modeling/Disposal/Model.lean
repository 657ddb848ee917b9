import Disposal.Candidate
import Disposal.Declaration
import Disposal.Framework
import Disposal.Provider

/-!
# The semantic model

The types of a set of files.  The declarations of one type, in whatever files, are merged into
one draft; when all files have been read, the written names are resolved against the drafts
and the framework types.

* `Draft` is a type with its names still as written, `Draft.Table` all drafts in the order they
  were first seen;
* `Model.ofFiles` builds the model, `Model.provider` are its answers, `Model.log` is what
  building it says.
-/

namespace Disposal

/-- A type put together from its declarations, names as written. -/
structure Draft where
  name : String
  namespaceName : String
  kind : TypeKind
  containingType : Option String
  accessibility : Accessibility
  isPartial : Bool
  location : Location
  /-- Base entries with the scopes they are written in. -/
  bases : List (String × Scope)
  /-- Members with the scopes they are written in. -/
  members : List (MemberDecl × Scope)
  deriving DecidableEq, Repr, Inhabited

namespace Draft

/-- The base entries of a declaration with their scope. -/
def basesOf (decl : TypeDecl) : List (String × Scope) := decl.bases.map fun b => (b, decl.scope)

/-- The draft of a first declaration. -/
def ofDecl (decl : TypeDecl) : Draft where
  name := decl.name
  namespaceName := decl.namespaceName
  kind := decl.kind
  containingType := decl.containingType
  accessibility := decl.accessibility
  isPartial := decl.isPartial
  location := decl.location
  bases := basesOf decl
  members := []

/-- A draft with a further declaration of the same type: the first explicit accessibility
counts, one `partial` is enough, and base lists are put together. -/
def merge (d : Draft) (decl : TypeDecl) : Draft :=
  { d with
    accessibility := d.accessibility.orElse decl.accessibility
    isPartial := d.isPartial || decl.isPartial
    bases := d.bases ++ basesOf decl }

/-- A draft with a further member. -/
def addMember (d : Draft) (m : MemberDecl) (scope : Scope) : Draft :=
  { d with members := d.members ++ [(m, scope)] }

/-- Drafts by qualified name, in the order they were first seen. -/
abbrev Table := List (String × Draft)

/-- Add a declaration of a type. -/
def Table.addType (decl : TypeDecl) : Table → Table
  | [] => [(decl.qualifiedName, ofDecl decl)]
  | (name, d) :: table =>
    if name = decl.qualifiedName then (name, d.merge decl) :: table
    else (name, d) :: addType decl table

/-- Add a member to the type that owns it. -/
def Table.addMember (owner : String) (m : MemberDecl) (scope : Scope) (table : Table) : Table :=
  table.map fun (name, d) => if name = owner then (name, d.addMember m scope) else (name, d)

/-- Add a declaration. -/
def Table.add (table : Table) : Declaration → Table
  | .type decl => table.addType decl
  | .member owner scope m => table.addMember owner m scope
  | .globalUsing _ => table
  | .unnamed _ => table

/-- The drafts of some declarations. -/
def Table.ofDeclarations (decls : List Declaration) : Table := decls.foldl add []

end Draft

/-- The list without repetitions: each name where it comes first. -/
def firstOccurrences : List String → List String
  | [] => []
  | x :: xs => x :: (firstOccurrences xs).filter (· ≠ x)

/-- The types and members of a set of files. -/
structure Model where
  /-- Every known type: the declared ones, then those of the framework. -/
  types : TypeTable
  /-- The members of the declared types. -/
  members : List (String × List MemberSymbol)
  /-- Qualified names of the declared types, in the order they were first seen. -/
  declared : List String
  /-- For each file, the byte ranges of its type declarations with the names of the types. -/
  bindings : List (List (Span × String))
  deriving Repr, Inhabited

namespace Model

/-- The usings that hold in all files. -/
def globalUsings (decls : List Declaration) : List String :=
  decls.filterMap fun
    | .globalUsing target => some target
    | _ => none

/-- The byte ranges of the type declarations of a file, the last declaration first. -/
def bindingsOf (decls : List Declaration) : List (Span × String) :=
  (decls.filterMap fun
    | .type decl => some (decl.span, decl.qualifiedName)
    | _ => none).reverse

/-- How written names are resolved. -/
structure Resolver where
  /-- Whether a qualified name is known. -/
  known : String → Bool
  /-- The usings that hold in all files. -/
  globalUsings : List String

/-- The known type that a written type stands for. -/
def Resolver.resolve? (r : Resolver) (scope : Scope) (written : String) : Option String :=
  (TypeName.normalize? written).bind fun name => scope.lookup? r.globalUsings r.known name

/-- The name recorded for a base entry: the known type it stands for, or else its name. -/
def Resolver.baseName? (r : Resolver) (scope : Scope) (written : String) : Option String :=
  match r.resolve? scope written with
  | some name => if name = "" then TypeName.normalize? written else some name
  | none => TypeName.normalize? written

/-- The base names of a draft: non-empty and without repetitions. -/
def Resolver.baseNames (r : Resolver) (d : Draft) : List String :=
  firstOccurrences ((d.bases.filterMap fun (written, scope) => r.baseName? scope written).filter
    (· ≠ ""))

/-- The symbol of a draft. -/
def Resolver.typeSymbol (r : Resolver) (d : Draft) : TypeSymbol where
  name := d.name
  namespaceName := d.namespaceName
  kind := d.kind
  accessibility := d.accessibility
  baseNames := r.baseNames d
  isPartial := d.isPartial
  containingType := d.containingType
  location := some d.location

/-- The symbol of a member. -/
def Resolver.memberSymbol (r : Resolver) (m : MemberDecl) (scope : Scope) : MemberSymbol where
  name := m.name
  kind := m.kind
  parameterCount := Int.ofNat m.parameterCount
  typeParameterCount := Int.ofNat m.typeParameterCount
  returnsVoid := m.returnsVoid
  declaredType := m.writtenType.bind fun written => r.resolve? scope written
  isStatic := m.isStatic
  location := m.location

/-- The model of the declarations of some files, with or without the framework types. -/
def ofDeclarations (includeFramework : Bool) (files : List (List Declaration)) : Model :=
  let drafts := Draft.Table.ofDeclarations files.flatten
  let framework := if includeFramework then Framework.table else []
  let others := framework.filter fun entry => (drafts.lookup entry.1).isNone
  let resolver : Resolver :=
    { known := fun name => (drafts.lookup name).isSome || (others.lookup name).isSome
      globalUsings := globalUsings files.flatten }
  { types := drafts.map (fun (name, d) => (name, resolver.typeSymbol d)) ++ others
    members := drafts.map fun (name, d) =>
      (name, d.members.map fun (m, scope) => resolver.memberSymbol m scope)
    declared := drafts.map Prod.fst
    bindings := files.map bindingsOf }

/-- The model of some files. -/
def ofFiles (includeFramework : Bool) (files : List SourceFile) : Model :=
  ofDeclarations includeFramework (files.map SourceFile.declarations)

/-- The members of the type with a given name. -/
def membersOf (m : Model) (name : String) : List MemberSymbol := (m.members.lookup name).getD []

/-- The type declared by a candidate. -/
def declaration? (m : Model) (c : Candidate) : Option TypeSymbol :=
  (m.bindings[c.file]?).bind fun spans => (spans.lookup c.node.span).bind m.types.get?

/-- The answers of a model. -/
def provider (m : Model) : Provider Candidate where
  declaration? := m.declaration?
  typeNamed? := m.types.get?
  members t := m.membersOf t.qualifiedName
  interfaces := m.types.interfaces

/-- The declared types, in the order they were first seen. -/
def declaredTypes (m : Model) : List TypeSymbol := m.declared.filterMap m.types.get?

/-! ### What building a model says -/

/-- What is said about the declarations of a file, given the types seen before. -/
def declarationLog (path : Path) : List String → List Declaration → List Log.Record
  | _, [] => []
  | seen, .type decl :: decls =>
    (if seen.contains decl.qualifiedName then
      [⟨.debug, .model, "Merging partial declaration of " ++ decl.qualifiedName ++ " from " ++
        path.toString⟩]
    else []) ++ declarationLog path (decl.qualifiedName :: seen) decls
  | seen, .unnamed kind :: decls =>
    ⟨.debug, .model, "Skipping unnamed " ++ kind ++ " in " ++ path.toString⟩ ::
      declarationLog path seen decls
  | seen, _ :: decls => declarationLog path seen decls

/-- The names of the types declared, the last first. -/
def declaredNames (decls : List Declaration) : List String := (bindingsOf decls).map Prod.snd

/-- What is said about the declarations of some files. -/
def filesLog : List String → List SourceFile → List Log.Record
  | _, [] => []
  | seen, f :: files =>
    declarationLog f.path seen f.declarations ++
      filesLog (declaredNames f.declarations ++ seen) files

/-- What building the model of some files says. -/
def log (m : Model) (files : List SourceFile) : List Log.Record :=
  filesLog [] files ++
    [⟨.info, .model, "Semantic model: " ++ Nat.repr m.declared.length ++ " declared type(s), " ++
      Nat.repr m.types.length ++ " known type(s) total"⟩]

end Model

end Disposal
