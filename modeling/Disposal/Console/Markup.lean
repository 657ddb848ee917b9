import Disposal.Console.Call
import Disposal.Console.Control
import Disposal.Console.Picture
import Disposal.Console.Style
import Disposal.Text.Quoted

/-!
# Marked-up texts

Texts for the console hold style marks in brackets: `[bold]` begins a style, `[/bold]` ends it and
`[/]` ends the style that began last.  A backslash before a mark makes it plain text, and two stand
for one.  A mark that ends a style which did not begin is an error; a style that does not end is
none.  A mark whose style has a colour with an empty part is an error too.

* `Console.pieces` cuts a text into plain parts and marks;
* `Console.render` is the text as it is shown, without marks and with pictures.
-/

namespace Disposal.Console

/-! ### Marks -/

/-- A style mark: what stands in its brackets before and behind an equals sign. -/
structure Mark where
  name : List Char
  value : Option (List Char) := none
  deriving DecidableEq, Repr, Inhabited

namespace Mark

/-- The mark with some text in its brackets. -/
def ofInner (inner : List Char) : Mark :=
  let name := inner.takeWhile (· ≠ '=')
  ⟨name, if name.length < inner.length then some (inner.drop (name.length + 1)) else none⟩

/-- A mark as it is written. -/
def written (m : Mark) : List Char :=
  match m.value with
  | none => '[' :: m.name ++ [']']
  | some value => '[' :: m.name ++ '=' :: value ++ [']']

/-- The style that a mark ends, empty for the style that began last; `none` if it begins one. -/
def closes? (m : Mark) : Option (List Char) :=
  match m.name with
  | '/' :: name => some (Text.trimBlank name)
  | _ => none

end Mark

/-- A part of a marked-up text. -/
inductive Piece where
  | plain (s : List Char)
  | mark (position : Nat) (m : Mark)
  deriving DecidableEq, Repr, Inhabited

/-- Whether a character can begin the inside of a mark. -/
def isMarkStart (c : Char) : Bool := c.isLower || c = '#' || c = '/' || c = '@'

/-- What the mark at the head of a text has in its brackets, and the text behind it. -/
def mark? : List Char → Option (List Char × List Char)
  | '[' :: c :: s =>
    let inner := s.takeWhile fun d => d ≠ ']' && d ≠ '['
    match isMarkStart c, s.drop inner.length with
    | true, ']' :: rest => some (c :: inner, rest)
    | _, _ => none
  | _ => none

/-- Cut a text, reading at most `fuel` characters; `position` is where it starts and `plain` what
is read of a plain part, its last character first. -/
def piecesFrom : (fuel : Nat) → (position : Nat) → (plain : List Char) → List Char → List Piece
  | 0, _, plain, s => [.plain (plain.reverse ++ s)]
  | _, _, plain, [] => [.plain plain.reverse]
  | fuel + 1, position, plain, c :: s =>
    let slashes := (c :: s).takeWhile (· = '\\')
    match mark? ((c :: s).drop slashes.length) with
    | none => piecesFrom fuel (position + 1) (c :: plain) s
    | some (inner, rest) =>
      let start := position + slashes.length
      .plain plain.reverse :: .plain (slashes.take (slashes.length / 2)) ::
        (if slashes.length % 2 = 1 then .plain ('[' :: inner ++ [']'])
          else .mark start (.ofInner inner)) ::
        piecesFrom fuel (start + inner.length + 2) [] rest

/-- The plain parts and marks of a text; plain parts may be empty. -/
def pieces (s : List Char) : List Piece := piecesFrom s.length 0 [] s

/-! ### Errors -/

/-- What is wrong with the marks of a text. -/
inductive MarkupError where
  | notOpen (m : Mark) (position : Nat)
  | nothingOpen (position : Nat)
  | badCall (read value : List Char) (e : CallError)
  /-- A part of a colour is empty. -/
  | noNumber
  deriving DecidableEq, Repr, Inhabited

/-- The kind of an error. -/
def MarkupError.kind : MarkupError → String
  | .noNumber => "ValueError"
  | _ => "MarkupError"

/-- The wording of an error. -/
def MarkupError.message : MarkupError → String
  | .notOpen m position => "closing tag '" ++ String.ofList m.written ++ "' at position " ++
      Nat.repr position ++ " doesn't match any open tag"
  | .nothingOpen position =>
    "closing tag '[/]' at position " ++ Nat.repr position ++ " has nothing to close"
  | .badCall read value e => "error parsing " ++ Text.quote (String.ofList read) ++ " in " ++
      Text.quote (String.ofList value) ++ "; " ++ e.message
  | .noNumber => "invalid literal for int() with base 10: ''"

/-! ### Calls -/

/-- The arguments of a call: those behind its name, or the whole text if it is not of the form of
a name with arguments. -/
def callArguments (value : List Char) : List Char :=
  let rest := value.dropWhile isCallName
  if rest = [] then "()".toList
  else if rest.head? = some '(' && rest.getLast? = some ')' && !rest.contains '\n' then rest
  else value

/-- Check a mark when its style ends: a mark whose name starts with an at sign gives a call. -/
def Mark.check (m : Mark) : Except MarkupError Unit :=
  match m.name.head?, m.value with
  | some '@', some value =>
    let read := callArguments (Text.trimBlank value)
    if value = [] then .ok ()
    else match checkCall read with
      | .ok _ => .ok ()
      | .error e => .error (.badCall read value e)
  | _, _ => .ok ()

/-! ### Rendering -/

/-- Take the innermost mark with a name out of the open ones. -/
def takeOpen (name : List Char) : List Mark → Option (Mark × List Mark)
  | [] => none
  | m :: ms =>
    if m.name = name then some (m, ms)
    else (takeOpen name ms).map fun (found, ms) => (found, m :: ms)

/-- The name of a style in a mark, as it is compared. -/
def styleName (name : List Char) : Except MarkupError (List Char) :=
  match normalName name with
  | .ok name => .ok name
  | .error _ => .error .noNumber

/-- The open marks after a mark, innermost first. -/
def advance (opened : List Mark) (position : Nat) (m : Mark) : Except MarkupError (List Mark) :=
  match m.closes? with
  | none => (styleName m.name).map fun name => ⟨name, m.value⟩ :: opened
  | some [] => match opened with
    | [] => .error (.nothingOpen position)
    | last :: opened => last.check.map fun _ => opened
  | some name => match styleName name with
    | .error e => .error e
    | .ok name => match takeOpen name opened with
      | none => .error (.notOpen m position)
      | some (found, opened) => found.check.map fun _ => opened

/-- A text in which an escaped bracket stands for itself. -/
def unescapeBrackets : List Char → List Char
  | '\\' :: '[' :: s => '[' :: unescapeBrackets s
  | c :: s => c :: unescapeBrackets s
  | [] => []

/-- A plain part as it is shown. -/
def renderPlain (s : List Char) : List Char := dropControls (replaceCodes (unescapeBrackets s))

/-- Show the parts of a text, with some marks open. -/
def renderPieces (opened : List Mark) : List Piece → Except MarkupError (List Char)
  | [] => .ok []
  | .plain s :: ps => (renderPieces opened ps).map (renderPlain s ++ ·)
  | .mark position m :: ps => match advance opened position m with
    | .error e => .error e
    | .ok opened => renderPieces opened ps

/-- Whether a mark begins a style whose value gives a colour with an empty part.  Values are read
when the text is shown, after all its marks. -/
def Piece.lacksNumber : Piece → Bool
  | .mark _ ⟨name, some value⟩ => match normalName name with
    | .ok styled => name.head? != some '/' &&
        (match Style.parse (styled ++ ' ' :: value) with
          | .error .noNumber => true
          | _ => false)
    | .error _ => false
  | _ => false

/-- A text as it is shown: without its style marks and with pictures. -/
def render (s : String) : Except MarkupError (List Char) :=
  match renderPieces [] (pieces s.toList) with
  | .ok shown => if (pieces s.toList).any Piece.lacksNumber then .error .noNumber else .ok shown
  | .error e => .error e

end Disposal.Console
