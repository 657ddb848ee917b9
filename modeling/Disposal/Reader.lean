import Disposal.Reader.Member
import Disposal.SourceFile

/-!
# Reading source text

A parser for the declarations in C# source text.  It reads well-formed text and looks at
declarations only: namespaces, using directives, types and their members.  Bodies of members,
initial values and attributes are passed over, and what stands outside of all declarations is a
statement.

* `Clause.type?` reads the declaration of a type;
* `Body.ofPieces` reads a body both as that of a namespace and as that of a type;
* `Reader.parse` is the syntax tree of a source.
-/

namespace Disposal.Reader

namespace Clause

/-! ### Types -/

/-- The kind of node for a type keyword. -/
def typeKeyword? (p : Piece) : Option String :=
  if p.isWord "class" then some "class_declaration"
  else if p.isWord "struct" then some "struct_declaration"
  else if p.isWord "interface" then some "interface_declaration"
  else if p.isWord "record" then some "record_declaration"
  else if p.isWord "enum" then some "enum_declaration"
  else none

/-- The nodes of an entry of a base list: a type, and the arguments for its constructor.  In a
record the two are one node. -/
def baseNodes (kind : String) (ps : List Piece) : List Node :=
  match ps.getLast? with
  | some (.parens span _) =>
    if ps.length ≤ 1 then [leafAt "type" none span]
    else if kind == "record_declaration" then
      [leafAt "primary_constructor_base_type" none (Piece.cover ps)]
    else [leafAt "type" none (Piece.cover ps.dropLast), leafAt "argument_list" none span]
  | _ => [leafAt "type" none (Piece.cover ps)]

/-- Whether a name must follow a piece of the head of a type. -/
def wantsName (p : Piece) : Bool := [":", ",", ".", "::", "<"].any p.isSymbol

/-- The head of a type behind its name: up to its body or the constraints of its type parameters.
The word that begins the constraints is a name like any other where a name must follow;
`wanted` tells whether one must follow at the start. -/
def headOfType : (wanted : Bool) → List Piece → List Piece
  | _, [] => []
  | wanted, p :: ps =>
    if p.isBraces || p.isSymbol ";" || (p.isWord "where" && !wanted) then []
    else p :: headOfType (wantsName p) ps

/-- The base list behind the name of a type: from the first colon of its head. -/
def baseList (kind : String) (ps : List Piece) : List Node :=
  let bases := (headOfType false ps).dropWhile fun p => !p.isSymbol ":"
  if bases.isEmpty then [] else
    [nodeAt "base_list" none (Piece.cover bases)
      ((Piece.splitCommas (bases.drop 1)).flatMap (baseNodes kind))]

/-- The body of a type; the body of an enumeration holds no declarations. -/
def typeBody (kind : String) (ps : List Piece) : List Node :=
  ps.filterMap fun
    | .braces span body =>
      if kind == "enum_declaration" then
        some (leafAt "enum_member_declaration_list" (some "body") span)
      else some (nodeAt "declaration_list" (some "body") span body.members)
    | _ => none

/-- The declaration of a type.  Before its keyword also `ref` can stand, which is no modifier;
a record may be called a class or a structure. -/
def type? (c : Clause) : Option Node :=
  let marks := c.rest.takeWhile (Piece.isWordOf ("ref" :: modifierWords))
  match c.rest.drop marks.length with
  | keyword :: next :: rest =>
    let modifiers := modifierNodes (marks.filter fun p => !p.isWord "ref")
    let isLong := keyword.isWord "record" && next.isWordOf ["class", "struct"]
    let (name, rest) := match isLong, rest with
      | true, name :: rest => (name, rest)
      | _, _ => (next, rest)
    match typeKeyword? keyword with
    | some kind =>
      if name.isAnyWord then
        some (c.node kind
          (modifiers ++ nameNode name :: (baseList kind rest ++ typeBody kind rest)))
      else none
    | none => none
  | _ => none

/-! ### Namespaces -/

/-- The declaration of a namespace, given what follows the keyword. -/
def namespaceNode (c : Clause) (rest : List Piece) : Node :=
  let name := rest.take (Piece.nameLength rest)
  let nameNode := leafAt "name" (some "name") (Piece.cover name)
  match rest.drop name.length with
  | .braces span body :: _ =>
    c.node "namespace_declaration"
      [nameNode, nodeAt "declaration_list" (some "body") span body.declarations]
  | _ => c.node "file_scoped_namespace_declaration" [nameNode]

/-- Whether a clause is a using directive, and not a statement that uses a value. -/
def isUsing (rest : List Piece) : Bool :=
  match rest with
  | first :: second :: third =>
    (first.isWord "using" && !second.isParens) ||
      (first.isWord "global" && second.isWord "using" && !third.isEmpty)
  | _ => false

/-- The node of a clause of a namespace. -/
def declaration (c : Clause) : Node :=
  match c.type?, c.rest with
  | some node, _ => node
  | none, first :: rest =>
    if isUsing c.rest then c.node "using_directive" []
    else if first.isWord "namespace" then c.namespaceNode rest
    else if first.isWord "alias" && !c.modifiers.isEmpty then c.node "extern_alias_directive" []
    else if first.isWord "delegate" then c.node "delegate_declaration" []
    else c.node "global_statement" []
  | none, [] => c.node "global_attribute" []

end Clause

/-- Both readings of the pieces of a body. -/
def Body.ofPieces (ps : List Piece) : Body :=
  let clauses := (Piece.clauses ps).map Clause.ofPieces
  { declarations := clauses.map Clause.declaration
    members := clauses.filterMap fun c => c.type?.orElse fun _ => c.member? }

/-- The syntax tree of a source. -/
def parse : Parser := fun source =>
  let pieces := Piece.group Body.ofPieces (Token.scan source)
  nodeAt "compilation_unit" none ⟨0, source.length⟩ (Body.ofPieces pieces).declarations

end Disposal.Reader
