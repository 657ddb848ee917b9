import Disposal.Text.Blank

/-!
# Calls in marks

A style mark can name a call for a click: a name with arguments in brackets.  The arguments have
to be an expression: operands with operators or commas between them, in brackets that match.

* `Console.callTokens` cuts a call into its words and signs;
* `Console.checkBrackets` and `Console.checkOrder` find what is wrong with them;
* `Console.checkCall` is the first thing that is wrong with a call.
-/

namespace Disposal.Console

/-- What is wrong with a call. -/
inductive CallError where
  | neverClosed (bracket : Char)
  | unmatched (bracket : Char)
  | mismatched (opening closing : Char)
  | openText
  | misplaced
  | missingComma
  | assignment
  deriving DecidableEq, Repr, Inhabited

/-- The wording of an error in a call. -/
def CallError.message : CallError → String
  | .neverClosed b => "'" ++ b.toString ++ "' was never closed"
  | .unmatched b => "unmatched '" ++ b.toString ++ "'"
  | .mismatched o c => "closing parenthesis '" ++ c.toString ++
      "' does not match opening parenthesis '" ++ o.toString ++ "'"
  | .openText => "unterminated string literal (detected at line 1)"
  | .misplaced => "invalid syntax"
  | .missingComma => "invalid syntax. Perhaps you forgot a comma?"
  | .assignment => "invalid syntax. Maybe you meant '==' or ':=' instead of '='?"

/-! ### Words and signs -/

/-- A word or sign of a call. -/
inductive CallToken where
  | name
  | number
  | text
  | openText
  | opening (bracket : Char)
  | closing (bracket : Char)
  | comma
  | colon
  | equals
  /-- A sign that stands between two operands. -/
  | binary
  /-- A sign that stands before an operand, and between two operands if `alsoBinary`. -/
  | unary (alsoBinary : Bool)
  | stray
  deriving DecidableEq, Repr, Inhabited

/-- Whether a character can stand in the name of what is called. -/
def isCallName (c : Char) : Bool := c.isAlphanum || c = '_' || c = '.' || 128 ≤ c.toNat

/-- Signs that stand between two operands, alone or together. -/
def isBinarySign (c : Char) : Bool := c ∈ ['*', '/', '%', '&', '|', '^', '@', '<', '>', '=', '!']

/-- The length of a text behind its opening quote, its closing quote included.  A backslash takes
the next character with it. -/
def textLength? (quote : Char) : (escaped : Bool) → List Char → Option Nat
  | _, [] => none
  | true, _ :: s => (textLength? quote false s).map (· + 1)
  | false, c :: s =>
    if c = quote then some 1
    else if c = '\n' then none
    else (textLength? quote (c = '\\') s).map (· + 1)

/-- A text whose opening quote is given. -/
def quotedToken (quote : Char) (s : List Char) : CallToken × Nat :=
  match textLength? quote false s with
  | some n => (.text, n + 1)
  | none => (.openText, s.length + 1)

/-- Letters that say how a text is written, when its quote follows. -/
def textMarks : List String := ["b", "br", "f", "fr", "r", "rb", "rf", "u"]

/-- A name or number of some characters, or a text that it marks. -/
def wordToken (word rest : List Char) : CallToken × Nat :=
  let isMark := textMarks.any fun m => m.toList == word.map Char.toLower
  match isMark, rest with
  | true, '"' :: s => let (token, n) := quotedToken '"' s; (token, word.length + n)
  | true, '\x27' :: s => let (token, n) := quotedToken '\x27' s; (token, word.length + n)
  | _, _ =>
    (if word.head?.any fun c => c.isDigit || c = '.' then .number else .name, word.length)

/-- The word or sign at the head of a call, and its length. -/
def callToken (c : Char) (s : List Char) : CallToken × Nat :=
  if c = '"' ∨ c = '\x27' then quotedToken c s
  else if isCallName c then
    let more := s.takeWhile isCallName
    wordToken (c :: more) (s.drop more.length)
  else if isBinarySign c then
    let more := s.takeWhile isBinarySign
    (if more ≠ [] then .binary else if c = '=' then .equals else if c = '!' then .stray
      else .binary, more.length + 1)
  else
    (match c with
      | '(' | '[' | '\x7b' => .opening c
      | ')' | ']' | '\x7d' => .closing c
      | ',' => .comma
      | ':' => .colon
      | '+' | '-' => .unary true
      | '~' => .unary false
      | _ => .stray, 1)

/-- The words and signs of a call, where `pending` characters of the first one are already read. -/
def callTokensFrom : (pending : Nat) → List Char → List CallToken
  | _, [] => []
  | pending + 1, _ :: s => callTokensFrom pending s
  | 0, c :: s =>
    if Text.isBlank c then callTokensFrom 0 s
    else
      let (token, length) := callToken c s
      token :: callTokensFrom (length - 1) s

/-- The words and signs of a call. -/
def callTokens (s : List Char) : List CallToken := callTokensFrom 0 s

/-! ### Brackets -/

/-- The bracket that a closing bracket belongs to. -/
def opening? : Char → Option Char
  | ')' => some '('
  | ']' => some '['
  | '\x7d' => some '\x7b'
  | _ => none

/-- Check that texts are closed and that closing brackets match; `stack` holds the open brackets.
The result is the brackets that stay open. -/
def checkBrackets (stack : List Char) : List CallToken → Except CallError (List Char)
  | [] => .ok stack
  | .openText :: _ => .error .openText
  | .opening b :: ts => checkBrackets (b :: stack) ts
  | .closing b :: ts =>
    match stack with
    | [] => .error (.unmatched b)
    | o :: stack => if opening? b = some o then checkBrackets stack ts else .error (.mismatched o b)
  | _ :: ts => checkBrackets stack ts

/-! ### Order -/

/-- Whether an operand has to come next. -/
def CallToken.asksOperand : CallToken → Bool
  | .opening _ | .comma | .colon | .equals | .binary | .unary _ => true
  | _ => false

/-- Whether a word is an operand. -/
def CallToken.isOperand : CallToken → Bool
  | .name | .number | .text => true
  | _ => false

/-- The error of two operands side by side, in some open brackets.  It is told only if all
brackets are closed in the end. -/
def sideBySide (unclosed : Option Char) (stack : List Char) (before after : CallToken) :
    CallError :=
  match unclosed with
  | some b => .neverClosed b
  | none =>
    if stack = [] ∨ (before = .name ∧ after = .text) then .misplaced else .missingComma

/-- Check that a word or sign may follow another one, where `next` comes behind it and `unclosed`
is a bracket that is never closed. -/
def checkStep (unclosed : Option Char) (stack : List Char) (before : CallToken)
    (next : Option CallToken) : CallToken → Except CallError Unit
  | .opening b =>
    if before.asksOperand ∨ b ≠ '\x7b' then .ok ()
    else .error (sideBySide unclosed stack before (.opening b))
  | .closing _ =>
    match before with
    | .opening _ | .comma => .ok ()
    | _ => if before.asksOperand then .error .misplaced else .ok ()
  | .comma | .binary => if before.asksOperand then .error .misplaced else .ok ()
  | .colon =>
    if before.asksOperand ∨ stack.head? ≠ some '\x7b' then .error .misplaced else .ok ()
  | .equals =>
    if before = .name ∧ stack ≠ [] ∧ next.any CallToken.isOperand then
      .error ((unclosed.map CallError.neverClosed).getD .assignment)
    else .error .misplaced
  | .unary alsoBinary => if before.asksOperand ∨ alsoBinary then .ok () else .error .misplaced
  | .stray | .openText => .error .misplaced
  | operand =>
    if before.asksOperand ∨ (before = .text ∧ operand = .text) then .ok ()
    else .error (sideBySide unclosed stack before operand)

/-- Check the order of words and signs behind another one. -/
def checkOrder (unclosed : Option Char) (stack : List Char) (before : CallToken) :
    List CallToken → Except CallError Unit
  | [] =>
    match unclosed with
    | some b => .error (.neverClosed b)
    | none => if before.asksOperand ∧ before ≠ .comma then .error .misplaced else .ok ()
  | t :: ts =>
    match checkStep unclosed stack before ts.head? t with
    | .error e => .error e
    | .ok _ =>
      match t with
      | .opening b => checkOrder unclosed (b :: stack) t ts
      | .closing _ => checkOrder unclosed stack.tail t ts
      | _ => checkOrder unclosed stack t ts

/-- Check a call: its brackets and texts first, then the order of its words and signs. -/
def checkCall (s : List Char) : Except CallError Unit :=
  match checkBrackets [] (callTokens s) with
  | .error e => .error e
  | .ok stack => checkOrder stack.head? [] .binary (callTokens s)

end Disposal.Console
