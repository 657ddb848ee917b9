import Disposal.Reader.Token

/-!
# Pieces of source text

The tokens of a source are grouped by their brackets, from the inside out.  What stands between
round or square brackets is kept as pieces.  What stands between braces is read at once, both as
the body of a namespace and as the body of a type, and only the two readings are kept: which of
them is meant is decided by what stands before the braces.

The pieces of a body are cut into clauses, one for each declaration in it.

* `Piece.group` groups tokens, given how to read a body;
* `Piece.clauses` cuts the pieces of a body into clauses, `Piece.splitCommas` cuts a list at its
  commas;
* `Piece.cover` is the byte range of some pieces.
-/

namespace Disposal.Reader

/-- The two readings of what stands between braces. -/
structure Body where
  /-- The nodes of the body of a namespace. -/
  declarations : List Node
  /-- The nodes of the body of a type. -/
  members : List Node
  deriving Inhabited

/-- A token, or all that stands between a pair of brackets. -/
inductive Piece where
  | token (t : Token)
  | parens (span : Span) (inner : List Piece)
  | brackets (span : Span) (inner : List Piece)
  | braces (span : Span) (body : Body)
  deriving Inhabited

/-- The kinds of brackets. -/
inductive Bracket where
  | round
  | square
  | curly
  deriving DecidableEq, Repr, Inhabited

namespace Bracket

/-- The kind of bracket that a token opens. -/
def opened? (t : Token) : Option Bracket :=
  if t.isSymbol "(" then some .round
  else if t.isSymbol "[" then some .square
  else if t.isSymbol "\x7b" then some .curly
  else none

/-- The kind of bracket that a token closes. -/
def closed? (t : Token) : Option Bracket :=
  if t.isSymbol ")" then some .round
  else if t.isSymbol "]" then some .square
  else if t.isSymbol "\x7d" then some .curly
  else none

end Bracket

namespace Piece

/-- The byte range of a piece. -/
def span : Piece → Span
  | .token t => t.span
  | .parens span _ => span
  | .brackets span _ => span
  | .braces span _ => span

/-- The byte range from the first to the last of some pieces. -/
def cover (ps : List Piece) : Span :=
  match ps.head?, ps.getLast? with
  | some first, some last => ⟨first.span.start, last.span.stop⟩
  | _, _ => ⟨0, 0⟩

/-- Whether a piece is the given symbol. -/
def isSymbol (symbol : String) : Piece → Bool
  | .token t => t.isSymbol symbol
  | _ => false

/-- Whether a piece is the given word. -/
def isWord (word : String) : Piece → Bool
  | .token t => t.isWord word
  | _ => false

/-- Whether a piece is one of the given words. -/
def isWordOf (words : List String) (p : Piece) : Bool := words.any p.isWord

/-- Whether a piece is a word. -/
def isAnyWord : Piece → Bool
  | .token t => t.kind = .word
  | _ => false

/-- Whether a piece stands between parentheses. -/
def isParens : Piece → Bool
  | .parens .. => true
  | _ => false

/-- Whether a piece stands between square brackets. -/
def isBrackets : Piece → Bool
  | .brackets .. => true
  | _ => false

/-- Whether a piece stands between braces. -/
def isBraces : Piece → Bool
  | .braces .. => true
  | _ => false

/-! ### Grouping -/

/-- A bracket that is still open, with the pieces before it, the last one first. -/
structure Open where
  bracket : Bracket
  start : Nat
  before : List Piece
  deriving Inhabited

/-- The piece of a pair of brackets. -/
def ofBracket (readBody : List Piece → Body) (b : Bracket) (span : Span) (inner : List Piece) :
    Piece :=
  match b with
  | .round => .parens span inner
  | .square => .brackets span inner
  | .curly => .braces span (readBody inner)

/-- Add one token to the pieces read so far, the last one first.  A closing bracket without a
partner is a token like any other. -/
def addToken (readBody : List Piece → Body) :
    List Open × List Piece → Token → List Open × List Piece
  | (opened, done), t =>
    match Bracket.opened? t, Bracket.closed? t, opened with
    | some b, _, _ => (⟨b, t.span.start, done⟩ :: opened, [])
    | none, some b, o :: outer =>
      if o.bracket = b then
        (outer, ofBracket readBody b ⟨o.start, t.span.stop⟩ done.reverse :: o.before)
      else (o :: outer, .token t :: done)
    | _, _, _ => (opened, .token t :: done)

/-- Group tokens by their brackets.  Brackets that are never closed are passed over. -/
def group (readBody : List Piece → Body) (ts : List Token) : List Piece :=
  let (opened, done) := ts.foldl (addToken readBody) ([], [])
  (opened.foldl (fun done o => done ++ o.before) done).reverse

/-! ### Cutting -/

/-- Whether a piece is an attribute of the whole assembly. -/
def isAssemblyAttribute : Piece → Bool
  | .brackets _ (target :: colon :: _) =>
    target.isWordOf ["assembly", "module"] && colon.isSymbol ":"
  | _ => false

/-- Whether a clause goes on behind a pair of braces: with an initial value, or with an end mark
that stands directly behind them. -/
def goesOn (braces : Piece) (next : Option Piece) : Bool :=
  next.any fun p =>
    p.isSymbol "=" || (p.isSymbol ";" && p.span.start == braces.span.stop)

/-- The clauses of some pieces, where `done` is what is read of the first one, its last piece
first, and `inValue` tells whether an initial value or an expression body has begun in it. -/
def clausesFrom : (done : List Piece) → (inValue : Bool) → List Piece → List (List Piece)
  | [], _, [] => []
  | done, _, [] => [done.reverse]
  | done, inValue, p :: ps =>
    if p.isSymbol ";" || (p.isBraces && !inValue && !goesOn p ps.head?) ||
        (done.isEmpty && p.isAssemblyAttribute) then
      (p :: done).reverse :: clausesFrom [] false ps
    else clausesFrom (p :: done) (inValue || p.isSymbol "=" || p.isSymbol "=>") ps

/-- The clauses of a body.  A clause ends with a semicolon, or with braces outside of an initial
value. -/
def clauses (ps : List Piece) : List (List Piece) := clausesFrom [] false ps

/-- Whether a piece can stand behind type arguments in an expression. -/
def followsArguments (p : Piece) : Bool :=
  p.isParens || p.isBrackets || p.isBraces ||
    [":", ";", ",", ".", "?", "==", "!=", "|", "^", "&"].any p.isSymbol

/-- Whether a piece can stand between the angle brackets of type arguments. -/
def isInArguments (p : Piece) : Bool :=
  p.isAnyWord || p.isParens || p.isBrackets || [",", ".", "::", "?", "*"].any p.isSymbol

/-- Whether an angle bracket in an expression opens type arguments, given what follows it: it is
closed behind types, and what comes then can stand behind type arguments. -/
def opensArguments : (angles : Nat) → List Piece → Bool
  | _, [] => false
  | angles, p :: ps =>
    if p.isSymbol "<" then opensArguments (angles + 1) ps
    else if p.isSymbol ">" then
      match angles with
      | 0 => ps.head?.all followsArguments
      | angles + 1 => opensArguments angles ps
    else p.isInArguments && opensArguments angles ps

/-- The parts of a list with commas, where `done` is what is read of the first part, its last
piece first, `inValue` tells whether an initial value has begun in it, and `angles` counts the
open angle brackets. -/
def splitFrom : (done : List Piece) → (inValue : Bool) → (angles : Nat) → List Piece →
    List (List Piece)
  | done, _, _, [] => [done.reverse]
  | done, inValue, angles, p :: ps =>
    if p.isSymbol "," && angles = 0 then done.reverse :: splitFrom [] false 0 ps
    else if p.isSymbol "<" && (0 < angles || !inValue || opensArguments 0 ps) then
      splitFrom (p :: done) inValue (angles + 1) ps
    else if p.isSymbol ">" then splitFrom (p :: done) inValue (angles - 1) ps
    else splitFrom (p :: done) (inValue || p.isSymbol "=") angles ps

/-- The parts of a list with commas; commas between angle brackets do not count. -/
def splitCommas (ps : List Piece) : List (List Piece) :=
  (splitFrom [] false 0 ps).filter fun part => !part.isEmpty

/-! ### Names and types -/

/-- The number of pieces of the dotted name at the head of some pieces, type arguments included.
`wantsWord` tells whether a word must come next, and `angles` counts the open angle brackets. -/
def nameLengthFrom : (wantsWord : Bool) → (angles : Nat) → List Piece → Nat
  | _, _, [] => 0
  | wantsWord, angles + 1, p :: ps =>
    let angles :=
      if p.isSymbol "<" then angles + 2 else if p.isSymbol ">" then angles else angles + 1
    1 + nameLengthFrom wantsWord angles ps
  | true, 0, p :: ps => if p.isAnyWord then 1 + nameLengthFrom false 0 ps else 0
  | false, 0, p :: ps =>
    if p.isSymbol "." || p.isSymbol "::" then 1 + nameLengthFrom true 0 ps
    else if p.isSymbol "<" then 1 + nameLengthFrom false 1 ps
    else 0

/-- The number of pieces of the dotted name at the head of some pieces. -/
def nameLength (ps : List Piece) : Nat := nameLengthFrom true 0 ps

/-- The last word of a dotted name and the pieces behind it. -/
def lastWordFrom (found : Option (Piece × List Piece)) (angles : Nat) :
    List Piece → Option (Piece × List Piece)
  | [] => found
  | p :: ps =>
    if p.isSymbol "<" then lastWordFrom found (angles + 1) ps
    else if p.isSymbol ">" then lastWordFrom found (angles - 1) ps
    else if angles = 0 && p.isAnyWord then lastWordFrom (some (p, ps)) 0 ps
    else lastWordFrom found angles ps

/-- The last word of a dotted name outside of type arguments, and the pieces behind it. -/
def lastWord? (ps : List Piece) : Option (Piece × List Piece) := lastWordFrom none 0 ps

/-- The number of pieces of a type without what follows its name: a tuple, a function pointer
or a dotted name. -/
def plainTypeLength : List Piece → Nat
  | .parens .. :: _ => 1
  | p :: q :: ps =>
    if p.isWord "delegate" && q.isSymbol "*" then
      let convention := ps.takeWhile fun p => !p.isSymbol "<"
      2 + convention.length + nameLengthFrom false 0 (ps.drop convention.length)
    else nameLength (p :: q :: ps)
  | ps => nameLength ps

/-- Whether a piece can follow the name of a type: ranks, a pointer star or a question mark. -/
def isTypeEnd (p : Piece) : Bool := p.isBrackets || p.isSymbol "?" || p.isSymbol "*"

/-- Cut some pieces behind the type at their head. -/
def splitType (ps : List Piece) : List Piece × List Piece :=
  let marks := ps.takeWhile (isWordOf ["ref", "readonly"])
  let plain := marks.length + plainTypeLength (ps.drop marks.length)
  let ends := (ps.drop plain).takeWhile isTypeEnd
  ps.splitAt (plain + ends.length)

end Piece

end Disposal.Reader
