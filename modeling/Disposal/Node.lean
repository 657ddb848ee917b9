import Disposal.Symbol
import Disposal.Text.Utf8

/-!
# Syntax trees

A file is analysed through its syntax tree.  A node has a kind, a byte range in the source, a
field name that tells its role below its parent, and some marks: anonymous nodes are mere
tokens, a node of kind `ERROR` covers text that could not be parsed, and a missing node was
added by the parser.

* `Node.preorder` lists a node and everything below it in document order;
* `Node.childInField?`, `Node.childOfKind?` find children, `Node.text` is the text of a node and
  `Node.name` its text without blanks;
* `Node.hasError` and `Node.errors` find what could not be parsed.
-/

namespace Disposal

/-- What is recorded of a node besides its children. -/
structure Node.Label where
  kind : String
  /-- The role of the node below its parent. -/
  field : Option String := none
  /-- Offset of the first byte. -/
  start : Nat := 0
  /-- Offset behind the last byte; a node without it has no text. -/
  stop : Option Nat := none
  /-- Whether the node is more than a token. -/
  named : Bool := true
  /-- Whether the parser added the node. -/
  missing : Bool := false
  /-- Whether the node is marked as holding an error. -/
  flagged : Bool := false
  deriving DecidableEq, Repr, Inhabited

/-- A node of a syntax tree. -/
inductive Node where
  | mk (label : Node.Label) (children : List Node)
  deriving Repr, Inhabited

/-- A byte range. -/
structure Span where
  start : Nat
  stop : Nat
  deriving DecidableEq, Repr, Inhabited

namespace Node

/-- The label of a node. -/
def label : Node → Label
  | .mk l _ => l

/-- The children of a node. -/
def children : Node → List Node
  | .mk _ cs => cs

/-- The kind of a node. -/
def kind (n : Node) : String := n.label.kind

/-- The byte range of a node, empty if it has no end. -/
def span (n : Node) : Span := ⟨n.label.start, n.label.stop.getD n.label.start⟩

/-- Whether the node covers text that could not be parsed. -/
def isError (n : Node) : Bool := n.label.named && n.label.kind == "ERROR"

/-- Whether the parser added the node. -/
def isMissing (n : Node) : Bool := n.label.missing

mutual
/-- A node and everything below it, in document order. -/
def preorder : Node → List Node
  | .mk l cs => .mk l cs :: preorderAll cs

/-- All nodes of a list of trees, in document order. -/
def preorderAll : List Node → List Node
  | [] => []
  | c :: cs => c.preorder ++ preorderAll cs
end

mutual
/-- The number of nodes of a tree. -/
def size : Node → Nat
  | .mk _ cs => 1 + sizeAll cs

/-- The number of nodes of a list of trees. -/
def sizeAll : List Node → Nat
  | [] => 0
  | c :: cs => c.size + sizeAll cs
end

mutual
/-- Whether something at or below a node could not be parsed. -/
def hasError : Node → Bool
  | .mk l cs => l.flagged || (Node.mk l cs).isError || l.missing || hasErrorAny cs

/-- Whether something in a list of trees could not be parsed. -/
def hasErrorAny : List Node → Bool
  | [] => false
  | c :: cs => c.hasError || hasErrorAny cs
end

mutual
/-- The outermost nodes that are in error or missing, in document order.  Nothing is looked for
below a node without errors. -/
def errors : Node → List Node
  | .mk l cs =>
    if (Node.mk l cs).isError || l.missing then [.mk l cs]
    else if (Node.mk l cs).hasError then errorsAll cs
    else []

/-- The outermost errors of a list of trees. -/
def errorsAll : List Node → List Node
  | [] => []
  | c :: cs => c.errors ++ errorsAll cs
end

/-! ### Children -/

/-- The first child in a field. -/
def childInField? (n : Node) (field : String) : Option Node :=
  n.children.find? fun c => c.label.field == some field

/-- The first child of a kind. -/
def childOfKind? (n : Node) (kind : String) : Option Node :=
  n.children.find? fun c => c.kind == kind

/-- The children that are more than tokens. -/
def namedChildren (n : Node) : List Node := n.children.filter fun c => c.label.named

/-! ### Text and position -/

/-- The text of a byte range. -/
def textOf (source : Text.Bytes) (r : Span) : String :=
  Text.decode ((source.drop r.start).take (r.stop - r.start))

/-- The text of a node; empty if it has no end. -/
def text (source : Text.Bytes) (n : Node) : String := textOf source n.span

/-- The text of a node without its blanks. -/
def name (source : Text.Bytes) (n : Node) : String := Text.compact (n.text source)

/-- Line and column, counted from 0, of an offset: the number of line feeds before it, and the
bytes since the last one. -/
def pointAt (source : Text.Bytes) (offset : Nat) : Nat × Nat :=
  (source.take offset).foldl
    (fun (here : Nat × Nat) (b : UInt8) => if b = 10 then (here.1 + 1, 0) else (here.1, here.2 + 1))
    (0, 0)

/-- Line and column, counted from 0, of the start of a node. -/
def point (source : Text.Bytes) (n : Node) : Nat × Nat := pointAt source n.label.start

/-! ### Declarations -/

/-- The kind of type that a declaration node declares. -/
def typeKind? (n : Node) : Option TypeKind :=
  match n.kind with
  | "class_declaration" => some .classType
  | "struct_declaration" => some .structType
  | "interface_declaration" => some .interfaceType
  | "record_declaration" => some .recordType
  | "record_struct_declaration" => some .structType
  | "enum_declaration" => some .enumType
  | _ => none

/-- Whether a node declares a class. -/
def isClass (n : Node) : Bool := n.kind == "class_declaration"

/-- The class declarations among the pending nodes and all nodes below them.  A node is taken off
the front and its children are put there, so that `fuel` counts the nodes still to be taken. -/
def classesFrom : (fuel : Nat) → (pending : List Node) → List Node
  | 0, _ => []
  | _ + 1, [] => []
  | fuel + 1, n :: pending =>
    let later := classesFrom fuel (n.children ++ pending)
    if n.isClass then n :: later else later

/-- Every class declaration at or below a node, in document order. -/
def classDeclarations (n : Node) : List Node := classesFrom n.size [n]

/-- The modifiers of a declaration. -/
def modifiers (source : Text.Bytes) (n : Node) : List String :=
  (n.children.filter fun c => c.kind == "modifier").map fun c => Text.trim (c.text source)

/-- Whether a node in a base list is an entry: comments, tokens and the arguments of a primary
constructor are none. -/
def isBaseEntry (n : Node) : Bool :=
  n.label.named && n.kind != "comment" && n.kind != "argument_list"

/-- The entries of the base list of a declaration, without blanks. -/
def baseEntries (source : Text.Bytes) (n : Node) : List String :=
  match n.childOfKind? "base_list" with
  | none => []
  | some list => (list.children.filter isBaseEntry).map fun c => c.name source

end Node

end Disposal
