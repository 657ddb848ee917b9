import Disposal.Reader.Piece

/-!
# Members in source text

One clause in the body of a type is read as a node: attributes and modifiers come first, then
what kind of member it is shows from the pieces that follow.

* `Clause.ofPieces` takes attributes and modifiers off a clause;
* `Clause.member?` is the node of a member.
-/

namespace Disposal.Reader

/-- A node that covers a byte range. -/
def nodeAt (kind : String) (field : Option String) (span : Span) (children : List Node) : Node :=
  .mk { kind, field, start := span.start, stop := some span.stop } children

/-- A node without children. -/
def leafAt (kind : String) (field : Option String) (span : Span) : Node :=
  nodeAt kind field span []

/-- The words that can stand before a declaration.  The word `file` is also a name. -/
def modifierWords : List String :=
  ["public", "private", "protected", "internal", "static", "readonly", "const", "volatile",
    "new", "override", "virtual", "abstract", "sealed", "extern", "partial", "async", "unsafe",
    "required", "file", "fixed"]

/-- A clause of a body, behind its attributes. -/
structure Clause where
  /-- The byte range with the attributes. -/
  span : Span
  modifiers : List Node
  /-- What follows the modifiers. -/
  rest : List Piece
  deriving Inhabited

namespace Clause

/-- The nodes of modifiers. -/
def modifierNodes (ps : List Piece) : List Node := ps.map fun p => leafAt "modifier" none p.span

/-- Whether a piece can stand behind the name that a member declares. -/
def followsName (p : Piece) : Bool :=
  p.isParens || p.isBraces || [";", ",", "=", "=>"].any p.isSymbol

/-- Whether what follows the word `file` makes it a modifier: a type follows it, and not the name
that a member declares. -/
def isBeforeType : List Piece → Bool
  | p :: next :: _ => p.isAnyWord && !followsName next
  | _ => false

/-- The modifiers at the head of some pieces. -/
def leadingModifiers : List Piece → List Piece
  | [] => []
  | p :: ps =>
    if p.isWordOf modifierWords && (!p.isWord "file" || isBeforeType ps) then
      p :: leadingModifiers ps
    else []

/-- Take attributes and modifiers off the pieces of a clause. -/
def ofPieces (ps : List Piece) : Clause :=
  let plain := ps.dropWhile Piece.isBrackets
  let modifiers := leadingModifiers plain
  { span := Piece.cover ps, modifiers := modifierNodes modifiers
    rest := plain.drop modifiers.length }

/-- The node of a clause: its modifiers, then further children. -/
def node (c : Clause) (kind : String) (children : List Node) : Node :=
  nodeAt kind none c.span (c.modifiers ++ children)

/-! ### Parts of members -/

/-- The node of a declared name. -/
def nameNode (p : Piece) : Node := leafAt "identifier" (some "name") p.span

/-- The node of a written type. -/
def typeNode (field : String) (ps : List Piece) : Node :=
  leafAt "type" (some field) (Piece.cover ps)

/-- The declaration of variables of one type. -/
def variableNode (type names : List Piece) : Node :=
  let names := names.takeWhile fun p => !p.isSymbol ";"
  let declarators := (Piece.splitCommas names).map fun part =>
    nodeAt "variable_declarator" none (Piece.cover part) ((part.take 1).map nameNode)
  nodeAt "variable_declaration" none (Piece.cover (type ++ names))
    (typeNode "type" type :: declarators)

/-- Whether a parameter takes all further arguments. -/
def isParameterArray (ps : List Piece) : Bool :=
  ((ps.dropWhile Piece.isBrackets).head?).any (Piece.isWord "params")

/-- The parameter list of a method.  A parameter that takes all further arguments has no node of
its own. -/
def parameterList (span : Span) (inner : List Piece) : Node :=
  let parts := (Piece.splitCommas inner).filter fun part => !isParameterArray part
  nodeAt "parameter_list" (some "parameters") span
    (parts.map fun part => leafAt "parameter" none (Piece.cover part))

/-- The type parameter list of a method, when its name is followed by one. -/
def typeParameterList (ps : List Piece) : List Node :=
  if ps.isEmpty then [] else
    let parts := Piece.splitCommas (ps.drop 1).dropLast
    [nodeAt "type_parameter_list" (some "type_parameters") (Piece.cover ps)
      (parts.map fun part => leafAt "type_parameter" none (Piece.cover part))]

/-! ### Kinds of members -/

/-- The node of a member that starts with its type: a method, an indexer, a property or
fields. -/
def typed (c : Clause) (type rest : List Piece) : Node :=
  let length := Piece.nameLength rest
  match Piece.lastWord? (rest.take length), rest.drop length with
  | some (name, typeParameters), .parens span inner :: _ =>
    c.node "method_declaration" (typeNode "returns" type :: nameNode name ::
      (typeParameterList typeParameters ++ [parameterList span inner]))
  | some (name, _), next :: _ =>
    if name.isWord "this" && next.isBrackets then
      c.node "indexer_declaration" [typeNode "type" type]
    else if next.isBraces || next.isSymbol "=>" then
      c.node "property_declaration" [typeNode "type" type, nameNode name]
    else c.node "field_declaration" [variableNode type rest]
  | _, _ => c.node "field_declaration" [variableNode type rest]

/-- The node of an event: with accessors it is a single declaration, and else it declares
variables. -/
def event (c : Clause) (rest : List Piece) : Node :=
  let (type, names) := Piece.splitType rest
  if names.any Piece.isBraces && !names.any (Piece.isSymbol "=") then
    c.node "event_declaration" [typeNode "type" type]
  else c.node "event_field_declaration" [variableNode type names]

/-- Whether a clause declares an operator, and whether it is a conversion. -/
def operator? (rest : List Piece) : Option Bool :=
  let before := rest.takeWhile fun p => !(p.isSymbol "=" || p.isSymbol "=>" || p.isBraces)
  if before.any (Piece.isWord "operator") then
    some (before.any (Piece.isWordOf ["implicit", "explicit"]))
  else none

/-- Whether a clause declares a constructor: its name stands directly before the parameters. -/
def isConstructor (rest : List Piece) : Bool :=
  match rest with
  | name :: next :: _ => name.isAnyWord && !name.isWord "ref" && next.isParens
  | _ => false

/-- The node of a member; a mere end mark has none. -/
def member? (c : Clause) : Option Node :=
  match c.rest, operator? c.rest with
  | [], _ => none
  | _, some true => some (c.node "conversion_operator_declaration" [])
  | _, some false => some (c.node "operator_declaration" [])
  | first :: rest, none =>
    if first.isSymbol ";" then none
    else if first.isSymbol "~" then some (c.node "destructor_declaration" [])
    else if first.isWord "event" then some (c.event rest)
    else if first.isWord "delegate" && !rest.head?.any (Piece.isSymbol "*") then
      some (c.node "delegate_declaration" [])
    else if isConstructor c.rest then some (c.node "constructor_declaration" [])
    else
      let (type, names) := Piece.splitType c.rest
      some (c.typed type names)

end Clause

end Disposal.Reader
