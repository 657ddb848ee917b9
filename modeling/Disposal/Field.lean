import Disposal.Double
import Disposal.Path
import Disposal.Text.Blank

/-!
# Fields given from outside

Locations, findings and work items can be given as records of plain values.  Reading such a
record checks every field and reports all faults together, in the order of the fields, each
with the place it was found at.  A pass makes its own locations, findings and work items, which
need no reading; only a host that brings such records comes this way.

* `Value` is a plain value, `Fault` a place and what is wrong there;
* `Checked` is a result that gathers faults, with `Checked.ap` as its combination;
* `Value.toText`, `Value.toBool`, `Value.toPositive`, `Value.toPath`, `Value.toTexts` read one
  value;
* `required`, `optional` and `nullable` read one field of a record.
-/

namespace Disposal

/-- A plain value.  Numbers written with a fraction or an exponent are floating-point numbers. -/
inductive Value where
  | null
  | bool (b : Bool)
  | int (n : Int)
  | real (x : Double)
  | text (s : String)
  | list (xs : List Value)
  | record (fields : List (String × Value))
  deriving Repr, Inhabited

/-- One step of the way to a value. -/
inductive Place where
  | field (name : String)
  | index (i : Nat)
  deriving DecidableEq, Repr, Inhabited

/-- What can be wrong with a value. -/
inductive Fault.Cause where
  | missing
  | notText
  | notPath
  | notBool
  | unreadableBool
  | notInt
  | unreadableInt
  | fractionalInt
  | notFinite
  | tooLong
  | tooSmall
  | unknownName
  | notList
  | notRecord
  | frozen
  deriving DecidableEq, Repr, Inhabited

/-- The code that a cause is reported by. -/
def Fault.Cause.code : Fault.Cause → String
  | .missing => "missing"
  | .notText => "string_type"
  | .notPath => "path_type"
  | .notBool => "bool_type"
  | .unreadableBool => "bool_parsing"
  | .notInt => "int_type"
  | .unreadableInt => "int_parsing"
  | .fractionalInt => "int_from_float"
  | .notFinite => "finite_number"
  | .tooLong => "int_parsing_size"
  | .tooSmall => "greater_than_equal"
  | .unknownName => "enum"
  | .notList => "tuple_type"
  | .notRecord => "model_type"
  | .frozen => "frozen_instance"

/-- Something wrong at a place. -/
structure Fault where
  /-- The way to the value, outermost step first. -/
  place : List Place
  /-- What is wrong there. -/
  cause : Fault.Cause
  deriving DecidableEq, Repr, Inhabited

/-- A value that was read, or the faults that prevent it. -/
inductive Checked (α : Type) where
  | value (a : α)
  | faults (fs : List Fault)
  deriving Repr

namespace Checked

variable {α β : Type}

/-- Apply a function to a value that was read. -/
def map (f : α → β) : Checked α → Checked β
  | .value a => .value (f a)
  | .faults fs => .faults fs

/-- Combine two readings; the faults of both are kept, in order. -/
def ap : Checked (α → β) → Checked α → Checked β
  | .value f, .value a => .value (f a)
  | .value _, .faults fs => .faults fs
  | .faults fs, .value _ => .faults fs
  | .faults fs, .faults gs => .faults (fs ++ gs)

instance : Applicative Checked where
  pure := .value
  map := map
  seq f x := ap f (x ())

/-- Put a step in front of the place of every fault. -/
def under (step : Place) : Checked α → Checked α
  | .value a => .value a
  | .faults fs => .faults (fs.map fun f => { f with place := step :: f.place })

/-- A single fault at the value itself. -/
def fault (cause : Fault.Cause) : Checked α := .faults [⟨[], cause⟩]

end Checked

namespace Value

/-- Read a text. -/
def toText : Value → Checked String
  | .text s => .value s
  | _ => .fault .notText

/-- Read a path. -/
def toPath : Value → Checked Path
  | .text s => .value (.ofString s)
  | _ => .fault .notPath

/-- The words that stand for truth. -/
def trueWords : List String := ["1", "on", "t", "true", "y", "yes"]

/-- The words that stand for falsehood. -/
def falseWords : List String := ["0", "off", "f", "false", "n", "no"]

/-- The words of a machine hold the whole numbers from `-wordLimit` up to, but not including,
`wordLimit`. -/
def wordLimit : Int := 9223372036854775808

/-- The truth value that a whole number stands for. -/
def truthOf (n : Int) : Checked Bool :=
  if n = 0 then .value false else if n = 1 then .value true else .fault .unreadableBool

/-- Read a truth value: itself, the numbers 0 and 1, or a word in any case.  Other numbers are
unreadable if they are whole and fit a machine word, and no truth values at all if not. -/
def toBool : Value → Checked Bool
  | .bool b => .value b
  | .int n => if -wordLimit ≤ n ∧ n < wordLimit then truthOf n else .fault .notBool
  | .real x => match x.toInt? with
    | some n => if -wordLimit < n ∧ n < wordLimit then truthOf n else .fault .notBool
    | none => .fault .notBool
  | .text s =>
    let word := String.ofList (s.toList.map Char.toLower)
    if word ∈ trueWords then .value true
    else if word ∈ falseWords then .value false
    else .fault .unreadableBool
  | _ => .fault .notBool

/-- The most digits that a written number may have. -/
def maxDigits : Nat := 4300

/-- The digits of groups that are joined by single underscores.  `after` says whether a digit
comes before. -/
def digitGroups : (after : Bool) → List Char → Option (List Char)
  | after, [] => if after then some [] else none
  | after, c :: cs =>
    if c.isDigit then (digitGroups true cs).map (c :: ·)
    else if c = '_' ∧ after then digitGroups false cs
    else none

/-- The number with some decimal digits. -/
def ofDigits (digits : List Char) : Nat :=
  digits.foldl (fun n c => 10 * n + (c.toNat - '0'.toNat)) 0

/-- White space that may surround a written number: the blanks without the separators. -/
def isNumberSpace (c : Char) : Bool := Text.isBlank c && !(28 ≤ c.toNat && c.toNat ≤ 31)

/-- A number without its leading zeros and the underscores among them; if no other digit follows,
the last of these characters is kept. -/
def dropZeros (s : List Char) : List Char :=
  if s.head? = some '0' then
    let zeros := s.takeWhile fun c => c = '0' || c = '_'
    let rest := s.drop zeros.length
    if rest.head?.any Char.isDigit then rest else zeros.drop (zeros.length - 1) ++ rest
  else s

/-- Whether what follows the digits of a number leaves it whole: nothing, or a point with zeros
behind it. -/
def isWholeTail : List Char → Bool
  | [] => true
  | c :: zeros => c = '.' && !zeros.isEmpty && zeros.all (· = '0')

/-- A number without its sign. -/
def parseMagnitude (s : List Char) : Except Fault.Cause Nat :=
  let whole := s.takeWhile (· ≠ '.')
  if maxDigits < (s.takeWhile Char.isDigit).length then .error .tooLong
  else match isWholeTail (s.drop whole.length), digitGroups false whole with
    | true, some digits =>
      if maxDigits < digits.length then .error .tooLong else .ok (ofDigits digits)
    | _, _ => .error .unreadableInt

/-- Whether a number starts with a zero that it can do without. -/
def hasSpareZero : List Char → Bool
  | '0' :: c :: _ => c ≠ '.'
  | _ => false

/-- A written whole number.  Leading zeros are passed over unless a minus comes before. -/
def parseInt (s : List Char) : Except Fault.Cause Int :=
  match Text.trimEnd isNumberSpace (Text.trimStart isNumberSpace s) with
  | '+' :: cs => (parseMagnitude (dropZeros cs)).map Int.ofNat
  | '-' :: cs =>
    if hasSpareZero cs then .error .unreadableInt
    else (parseMagnitude cs).map fun n => -Int.ofNat n
  | cs => (parseMagnitude (dropZeros cs)).map Int.ofNat

/-- Read a whole number: a number without a fraction, a truth value or a written number.
Floating-point numbers have to be smaller than `wordLimit`. -/
def toInt : Value → Checked Int
  | .int n => .value n
  | .bool b => .value (if b then 1 else 0)
  | .real x => match x.toInt? with
    | some n => if -wordLimit < n ∧ n < wordLimit then .value n else .fault .tooLong
    | none => .fault (if x.isFinite then .fractionalInt else .notFinite)
  | .text s => match parseInt s.toList with
    | .ok n => .value n
    | .error cause => .fault cause
  | _ => .fault .notInt

/-- Read a whole number that is at least 1. -/
def toPositive (v : Value) : Checked Nat :=
  match v.toInt with
  | .value n => if 1 ≤ n then .value n.toNat else .fault .tooSmall
  | .faults fs => .faults fs

/-- Read the elements of a list from position `i` on. -/
def readFrom {α : Type} (read : Value → Checked α) : Nat → List Value → Checked (List α)
  | _, [] => .value []
  | i, v :: vs => ((read v).under (.index i)).map List.cons |>.ap (readFrom read (i + 1) vs)

/-- Read a list of texts. -/
def toTexts : Value → Checked (List String)
  | .list xs => readFrom toText 0 xs
  | _ => .fault .notList

/-- Read a value that may be null. -/
def orNull {α : Type} (read : Value → Checked α) : Value → Checked (Option α)
  | .null => .value none
  | v => (read v).map some

end Value

/-- The fields of a record. -/
abbrev Fields := List (String × Value)

namespace Fields

variable {α : Type}

/-- A field that has to be given. -/
def required (fields : Fields) (name : String) (read : Value → Checked α) : Checked α :=
  (match fields.lookup name with
    | some v => read v
    | none => .fault .missing).under (.field name)

/-- A field with a default. -/
def optional (fields : Fields) (name : String) (default : α) (read : Value → Checked α) :
    Checked α :=
  match fields.lookup name with
  | some v => (read v).under (.field name)
  | none => .value default

/-- A field that may be left out or null. -/
def nullable (fields : Fields) (name : String) (read : Value → Checked α) :
    Checked (Option α) :=
  fields.optional name none (Value.orNull read)

end Fields

end Disposal
