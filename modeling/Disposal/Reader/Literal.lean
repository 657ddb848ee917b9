/-!
# Literals in source text

Strings and characters are passed over as a whole, so that nothing inside them is taken for
code.  A string may be verbatim, where a quote is written twice and a backslash is an ordinary
character; it may be raw, between at least three quotes; and it may be interpolated, with code
between braces, in which further literals can stand.

The characters of a source are its bytes: a byte outside ASCII never begins or ends a literal.

* `Literal.openAt?` recognises the start of a literal;
* `Literal.lengthAt?` is the length of the literal at the head of a text.
-/

namespace Disposal.Reader.Literal

/-- What surrounds a position inside a literal. -/
inductive Frame where
  /-- The text of a string that ends with `quotes` quotes and in which code stands between
  `dollars` braces; without dollars there is no code in it. -/
  | text (quotes dollars : Nat) (verbatim : Bool)
  /-- The text of a character literal. -/
  | character
  /-- Code in a string, closed by `braces` braces and itself inside `depth` brackets. -/
  | code (braces depth : Nat)
  deriving DecidableEq, Repr, Inhabited

/-- How often a text begins with a character. -/
def runLength (c : Char) (s : List Char) : Nat := (s.takeWhile (· = c)).length

/-- The marks before the first quote of a string. -/
def isMark (c : Char) : Bool := c = '$' || c = '@'

/-- The start of a literal at the head of a text: its length and the frame it opens. -/
def openAt? (s : List Char) : Option (Nat × Frame) :=
  let marks := s.takeWhile isMark
  let dollars := marks.count '$'
  let verbatim := marks.contains '@'
  let quotes := runLength '"' (s.drop marks.length)
  if quotes = 0 then
    if runLength '\x27' s = 0 then none else some (1, .character)
  else if 3 ≤ quotes && !verbatim then some (marks.length + quotes, .text quotes dollars false)
  else some (marks.length + 1, .text 1 dollars verbatim)

/-- One step inside the text of a string: the characters passed and the frames then open. -/
def stepText (quotes dollars : Nat) (verbatim : Bool) (outer : List Frame) (s : List Char) :
    Nat × List Frame :=
  let here := Frame.text quotes dollars verbatim :: outer
  let braces := runLength '\x7b' s
  if 0 < dollars && 0 < braces then
    if 3 ≤ quotes then
      (braces, if dollars ≤ braces then .code dollars 0 :: here else here)
    else if 2 ≤ braces then (2, here)
    else (1, .code 1 0 :: here)
  else if 3 ≤ quotes then
    let run := runLength '"' s
    if quotes ≤ run then (quotes, outer) else (max 1 run, here)
  else if runLength '"' s = 0 then
    (if !verbatim && 0 < runLength '\\' s then 2 else 1, here)
  else if verbatim && 2 ≤ runLength '"' s then (2, here)
  else (1, outer)

/-- One step inside a character literal. -/
def stepCharacter (outer : List Frame) (s : List Char) : Nat × List Frame :=
  if 0 < runLength '\\' s then (2, .character :: outer)
  else if 0 < runLength '\x27' s then (1, outer)
  else (1, .character :: outer)

/-- One step inside code in a string. -/
def stepCode (braces depth : Nat) (outer : List Frame) (s : List Char) : Nat × List Frame :=
  match openAt? s, s with
  | some (length, frame), _ => (length, frame :: .code braces depth :: outer)
  | none, [] => (1, outer)
  | none, c :: _ =>
    if c = '(' || c = '[' || c = '\x7b' then (1, .code braces (depth + 1) :: outer)
    else if c = '\x7d' && depth = 0 then (braces, outer)
    else if c = ')' || c = ']' || c = '\x7d' then (1, .code braces (depth - 1) :: outer)
    else (1, .code braces depth :: outer)

/-- One step inside a literal: the characters passed, at least one of them, and the frames then
open. -/
def step (s : List Char) : List Frame → Nat × List Frame
  | [] => (1, [])
  | .text quotes dollars verbatim :: outer => stepText quotes dollars verbatim outer s
  | .character :: outer => stepCharacter outer s
  | .code braces depth :: outer => stepCode braces depth outer s

/-- The number of characters until no frame is open, when `passed` of them have been looked at
already. -/
def lengthFrom : List Frame → (passed : Nat) → List Char → Nat
  | _, _, [] => 0
  | frames, passed + 1, _ :: s => 1 + lengthFrom frames passed s
  | [], 0, _ :: _ => 0
  | frame :: frames, 0, c :: s =>
    let (length, next) := step (c :: s) (frame :: frames)
    1 + lengthFrom next (length - 1) s

/-- The length of the literal at the head of a text. -/
def lengthAt? (s : List Char) : Option Nat :=
  (openAt? s).map fun (length, frame) => lengthFrom [frame] length s

end Disposal.Reader.Literal
