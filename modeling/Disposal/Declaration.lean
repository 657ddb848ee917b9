import Disposal.Scope
import Disposal.SourceFile
import Disposal.Using

/-!
# Declarations

The declarations of a file, in the order they stand: type declarations with their members and
the types nested in them, and the usings that hold in all files.  A name is recorded together
with the scope it is written in, because it can only be resolved when all files are known.

Namespaces are followed in three forms: with a body, before the declarations of a file, and
around the declarations of a file.  Bodies of members are never entered, and what stands below
an unnamed declaration is passed over.

* `Declaration` is one declaration found;
* `Declaration.ofSiblings` lists those of a list of sibling nodes, `SourceFile.declarations`
  those of a file.
-/

namespace Disposal

/-- A member as it is written. -/
structure MemberDecl where
  name : String
  kind : MemberKind
  parameterCount : Nat := 0
  typeParameterCount : Nat := 0
  returnsVoid : Bool := false
  /-- The written type of a field or property. -/
  writtenType : Option String := none
  isStatic : Bool := false
  location : Option Location := none
  deriving DecidableEq, Repr, Inhabited

/-- A type declaration as it is written, without its members. -/
structure TypeDecl where
  qualifiedName : String
  name : String
  namespaceName : String
  kind : TypeKind
  containingType : Option String
  accessibility : Accessibility
  isPartial : Bool
  location : Location
  /-- The entries of the base list. -/
  bases : List String
  /-- The node of the declaration. -/
  node : Node
  /-- The scope of the base list and of the members. -/
  scope : Scope
  deriving Repr, Inhabited

/-- The byte range of a type declaration. -/
def TypeDecl.span (decl : TypeDecl) : Span := decl.node.span

/-- A declaration found in a file. -/
inductive Declaration where
  | type (decl : TypeDecl)
  | member (owner : String) (scope : Scope) (decl : MemberDecl)
  | globalUsing (target : String)
  | unnamed (kind : String)
  deriving Repr, Inhabited

namespace MemberDecl

/-- The names declared in a variable declaration. -/
def declaratorNames (source : Text.Bytes) (n : Node) : List String :=
  (n.children.filter fun c => c.kind == "variable_declarator").filterMap fun c =>
    ((c.childInField? "name").orElse fun _ => c.childOfKind? "identifier").map
      fun name => name.name source

/-- How many of the named children of an optional node have one of the given kinds. -/
def countChildren (kinds : List String) : Option Node → Nat
  | none => 0
  | some n => n.namedChildren.countP fun c => kinds.contains c.kind

/-- The fields or events of a declaration with declarators. -/
def ofVariables (f : SourceFile) (n : Node) (kind : MemberKind) (isStatic : Bool) :
    List MemberDecl :=
  match n.childOfKind? "variable_declaration" with
  | none => []
  | some declared =>
    let writtenType :=
      if kind = .field then (declared.childInField? "type").map fun t => t.name f.source else none
    (declaratorNames f.source declared).map fun name =>
      { name, kind, writtenType, isStatic, location := some (f.locate n) }

/-- The property of a declaration. -/
def ofProperty (f : SourceFile) (n : Node) (isStatic : Bool) : List MemberDecl :=
  match n.childInField? "name" with
  | none => []
  | some name =>
    [{ name := name.name f.source, kind := .property,
       writtenType := (n.childInField? "type").map fun t => t.name f.source,
       isStatic, location := some (f.locate n) }]

/-- The method of a declaration. -/
def ofMethod (f : SourceFile) (n : Node) (isStatic : Bool) : List MemberDecl :=
  match n.childInField? "name" with
  | none => []
  | some name =>
    let returned := (n.childInField? "returns").orElse fun _ => n.childInField? "type"
    let parameters := (n.childInField? "parameters").orElse fun _ =>
      n.childOfKind? "parameter_list"
    let typeParameters := (n.childInField? "type_parameters").orElse fun _ =>
      n.childOfKind? "type_parameter_list"
    [{ name := name.name f.source, kind := .method,
       parameterCount := countChildren ["parameter", "parameter_array"] parameters,
       typeParameterCount := countChildren ["type_parameter"] typeParameters,
       returnsVoid := returned.any fun r => r.name f.source == "void",
       isStatic, location := some (f.locate n) }]

/-- The members that a node in the body of a type declares. -/
def ofNode (f : SourceFile) (n : Node) : List MemberDecl :=
  let modifiers := n.modifiers f.source
  let isStatic := modifiers.contains "static" || modifiers.contains "const"
  match n.kind with
  | "field_declaration" => ofVariables f n .field isStatic
  | "event_field_declaration" => ofVariables f n .event isStatic
  | "property_declaration" => ofProperty f n isStatic
  | "method_declaration" => ofMethod f n isStatic
  | _ => []

end MemberDecl

/-- The declaration of a type named `name`, in a scope and perhaps inside another type. -/
def TypeDecl.ofNode (f : SourceFile) (scope : Scope) (outer : Option String) (kind : TypeKind)
    (name : String) (n : Node) : TypeDecl :=
  let modifiers := n.modifiers f.source
  let qualifiedName :=
    match outer with
    | some o => if o = "" then joinName scope.namespaceName name else o ++ "." ++ name
    | none => joinName scope.namespaceName name
  { qualifiedName, name, kind
    namespaceName := scope.namespaceName
    containingType := outer
    accessibility := .ofModifiers modifiers
    isPartial := modifiers.contains "partial"
    location := f.locate n
    bases := n.baseEntries f.source
    node := n
    scope := { scope with containers := qualifiedName :: scope.containers } }

namespace Declaration

/-- The test for the body among the children of a declaration: the child in the field `body`,
or else a declaration list. -/
def isBody (siblings : List Node) (n : Node) : Bool :=
  if siblings.any fun c => c.label.field == some "body" then n.label.field == some "body"
  else n.kind == "declaration_list"

/-- The scope of the siblings behind a using directive. -/
def addUsing (scope : Scope) (u : Using) : Scope :=
  match u.target with
  | some target => if u.isGlobal then scope else { scope with usings := scope.usings ++ [target] }
  | none => scope

/-- The declaration that a using directive makes for all files. -/
def ofUsing (u : Using) : List Declaration :=
  match u.target with
  | some target => if u.isGlobal then [.globalUsing target] else []
  | none => []

/-- A scope inside a further namespace. -/
def enter (scope : Scope) (name : String) : Scope :=
  { scope with namespaceName := joinName scope.namespaceName name }

/-- What a node does among the declarations of a file or namespace. -/
inductive Role where
  | usingDirective (u : Using)
  | namespaceBlock (name : String)
  | fileNamespace (name : String)
  | type (kind : TypeKind)
  | other
  deriving DecidableEq, Repr, Inhabited

/-- The role of a node.  An unnamed namespace has none. -/
def role (source : Text.Bytes) (n : Node) : Role :=
  match n.kind with
  | "using_directive" => .usingDirective (.ofText (n.text source))
  | "namespace_declaration" =>
    ((n.childInField? "name").map fun name => Role.namespaceBlock (name.name source)).getD .other
  | "file_scoped_namespace_declaration" =>
    ((n.childInField? "name").map fun name => Role.fileNamespace (name.name source)).getD .other
  | _ => (n.typeKind?.map Role.type).getD .other

mutual
/-- The declarations of one type declaration: itself, then its body. -/
def ofType (f : SourceFile) (scope : Scope) (outer : Option String) (kind : TypeKind) :
    Node → List Declaration
  | .mk l cs =>
    match (Node.mk l cs).childInField? "name" with
    | none => [.unnamed l.kind]
    | some name =>
      let decl := TypeDecl.ofNode f scope outer kind (name.name f.source) (.mk l cs)
      .type decl :: ofTypeBody f decl.scope decl.qualifiedName (isBody cs) cs

/-- The declarations in the body of a type: the first of the children that `body` holds of,
when it is a declaration list. -/
def ofTypeBody (f : SourceFile) (scope : Scope) (owner : String) (body : Node → Bool) :
    List Node → List Declaration
  | [] => []
  | .mk l ks :: cs =>
    if body (.mk l ks) then
      if l.kind == "declaration_list" then ofMembers f scope owner ks else []
    else ofTypeBody f scope owner body cs

/-- The declarations among the nodes of a type's body. -/
def ofMembers (f : SourceFile) (scope : Scope) (owner : String) : List Node → List Declaration
  | [] => []
  | c :: cs =>
    (if c.label.named then
      match c.typeKind? with
      | some kind => ofType f scope (some owner) kind c
      | none => (MemberDecl.ofNode f c).map (.member owner scope)
    else []) ++ ofMembers f scope owner cs
end

/-- The scope of the siblings behind a node: a using directive and a namespace without a body
change it. -/
def scopeBehind (source : Text.Bytes) (scope : Scope) (n : Node) : Scope :=
  match role source n with
  | .usingDirective u => addUsing scope u
  | .fileNamespace name => enter scope name
  | _ => scope

mutual
/-- The declarations of a list of siblings. -/
def ofSiblings (f : SourceFile) (scope : Scope) : List Node → List Declaration
  | [] => []
  | c :: cs => ofNode f scope c ++ ofSiblings f (scopeBehind f.source scope c) cs

/-- The declarations of one of the siblings. -/
def ofNode (f : SourceFile) (scope : Scope) : Node → List Declaration
  | .mk l ks =>
    match role f.source (.mk l ks) with
    | .usingDirective u => ofUsing u
    | .namespaceBlock name => ofNamespaceBody f (enter scope name) (isBody ks) ks
    | .fileNamespace name => ofSiblings f (enter scope name) ks
    | .type kind => ofType f scope none kind (.mk l ks)
    | .other => []

/-- The declarations in the body of a namespace: the first of the children that `body` holds
of. -/
def ofNamespaceBody (f : SourceFile) (scope : Scope) (body : Node → Bool) :
    List Node → List Declaration
  | [] => []
  | c :: cs => if body c then ofChildren f scope c else ofNamespaceBody f scope body cs

/-- The declarations among the children of a node. -/
def ofChildren (f : SourceFile) (scope : Scope) : Node → List Declaration
  | .mk _ ks => ofSiblings f scope ks
end

end Declaration

/-- The declarations of a file, in the order they stand. -/
def SourceFile.declarations (f : SourceFile) : List Declaration :=
  Declaration.ofSiblings f {} f.root.children

end Disposal
