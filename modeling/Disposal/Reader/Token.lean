import Disposal.Node
import Disposal.Reader.Literal

/-!
# Tokens of source text

A source is cut into words, literals and symbols; blanks and comments separate them and are
dropped.  Each token keeps the byte range it comes from.  A word is a name, a keyword or a
number; bytes outside ASCII belong to words, because names may hold any letter, unless they are
those of a blank.

* `Token.scan` cuts a source into its tokens.
-/

namespace Disposal.Reader

/-- The kinds of tokens. -/
inductive Token.Kind where
  | word
  | literal
  | symbol
  deriving DecidableEq, Repr, Inhabited

/-- A token of a source. -/
structure Token where
  kind : Token.Kind
  /-- The characters of the token, one for each byte. -/
  text : List Char
  span : Span
  deriving DecidableEq, Repr, Inhabited

namespace Token

/-- Whether a token is the given word. -/
def isWord (t : Token) (word : String) : Bool := t.kind = .word && t.text = word.toList

/-- Whether a token is the given symbol. -/
def isSymbol (t : Token) (symbol : String) : Bool := t.kind = .symbol && t.text = symbol.toList

/-- The blanks outside ASCII, one character for each byte: the no-break space, the mark of an
encoding and the ideographic space. -/
def wideBlanks : List (List Char) :=
  [[0xC2, 0xA0], [0xEF, 0xBB, 0xBF], [0xE3, 0x80, 0x80]].map (List.map Char.ofNat)

/-- The length of the blank at the head of a text; without a blank it is zero. -/
def blankLength : List Char → Nat
  | [] => 0
  | c :: s =>
    if c.toNat ≤ 32 then 1
    else ((wideBlanks.find? fun blank => blank.isPrefixOf (c :: s)).map List.length).getD 0

/-- Characters of words. -/
def isWordChar (c : Char) : Bool := c.isAlphanum || c = '_' || 128 ≤ c.toNat

/-- Whether a character is a hexadecimal digit. -/
def isHexDigit (c : Char) : Bool :=
  c.isDigit || ('a' ≤ c && c ≤ 'f') || ('A' ≤ c && c ≤ 'F')

/-- Whether a text begins with some hexadecimal digits. -/
def startsWithHex (n : Nat) (s : List Char) : Bool :=
  n ≤ s.length && (s.take n).all isHexDigit

/-- The length of the character of a word at the head of a text: itself, or an escape with four or
eight hexadecimal digits; zero if there is none. -/
def wordCharLength : List Char → Nat
  | [] => 0
  | '\\' :: 'u' :: s => if startsWithHex 4 s then 6 else 0
  | '\\' :: 'U' :: s => if startsWithHex 8 s then 10 else 0
  | c :: s => if isWordChar c && blankLength (c :: s) = 0 then 1 else 0

/-- The length of the characters of a word at the head of a text, of which `passed` are looked at
already. -/
def wordLengthFrom : (passed : Nat) → List Char → Nat
  | _, [] => 0
  | passed + 1, _ :: s => 1 + wordLengthFrom passed s
  | 0, c :: s =>
    match wordCharLength (c :: s) with
    | 0 => 0
    | more + 1 => 1 + wordLengthFrom more s

/-- The length of the word at the head of a text: word characters, perhaps behind an at sign. -/
def wordLength (s : List Char) : Nat :=
  match s with
  | '@' :: rest =>
    let length := wordLengthFrom 0 rest
    if length = 0 then 0 else length + 1
  | _ => wordLengthFrom 0 s

/-- The symbols of two characters; every other symbol has one. -/
def longSymbols : List (List Char) :=
  ["=>", "==", "!=", "<=", ">=", "::"].map String.toList

/-- The length of the symbol at the head of a text. -/
def symbolLength (s : List Char) : Nat := if longSymbols.contains (s.take 2) then 2 else 1

/-- The length of the rest of a comment between stars. -/
def starCommentLength : List Char → Nat
  | '*' :: '/' :: _ => 2
  | [] => 0
  | _ :: s => 1 + starCommentLength s

/-- The length of the comment at the head of a text.  A line ends with a line feed or a carriage
return.  A line with an instruction to the preprocessor is passed over like a comment. -/
def commentLength? : List Char → Option Nat
  | '#' :: s => some (1 + (s.takeWhile (· ≠ '\n')).length)
  | '/' :: '/' :: s => some (2 + (s.takeWhile fun c => c ≠ '\n' && c ≠ '\r').length)
  | '/' :: '*' :: s => some (2 + starCommentLength s)
  | _ => none

/-- What stands at the head of a text, with its length; blanks and comments are no token. -/
def headOf (c : Char) (s : List Char) : Option Kind × Nat :=
  if blankLength (c :: s) ≠ 0 then (none, blankLength (c :: s))
  else match commentLength? (c :: s), Literal.lengthAt? (c :: s), wordLength (c :: s) with
    | some length, _, _ => (none, length)
    | none, some length, _ => (some .literal, length)
    | none, none, 0 => (some .symbol, symbolLength (c :: s))
    | none, none, length => (some .word, length)

/-- The tokens of the rest of a source that starts at offset `start`, of which `passed`
characters belong to what was read before. -/
def scanFrom (start : Nat) : (passed : Nat) → List Char → List Token
  | _, [] => []
  | passed + 1, _ :: s => scanFrom (start + 1) passed s
  | 0, c :: s =>
    let (kind, length) := headOf c s
    let rest := scanFrom (start + 1) (length - 1) s
    match kind with
    | none => rest
    | some kind => ⟨kind, (c :: s).take length, ⟨start, start + length⟩⟩ :: rest

/-- The tokens of a source. -/
def scan (source : Text.Bytes) : List Token :=
  scanFrom 0 0 (source.map fun b => Char.ofNat b.toNat)

end Token

end Disposal.Reader
