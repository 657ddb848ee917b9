/-!
# UTF-8 with replacement

Source bytes are read as UTF-8.  Bytes that are no part of a well-formed sequence never stop
the reading: each maximal ill-formed part gives one replacement character `U+FFFD`, as the
Unicode standard recommends.

* `Text.encode` and `Text.decode` go between text and bytes;
* `Text.stripMark` drops one leading byte order mark.
-/

namespace Disposal.Text

/-- Raw contents of a file. -/
abbrev Bytes := List UInt8

/-- The UTF-8 bytes of a text. -/
def encode (s : String) : Bytes := s.toList.flatMap String.utf8EncodeChar

/-- The character that stands for bytes that cannot be read. -/
def replacement : Char := '\uFFFD'

/-- What the bytes read so far have left open: nothing, or a sequence whose value so far is
`value`, which needs `more + 1` further bytes, the next of them between `lo` and `hi`. -/
inductive Utf8State where
  | idle
  | inside (value more lo hi : Nat)
  deriving DecidableEq, Repr

/-- The effect of a byte at the start of a sequence: characters written and what is left open. -/
def leadByte (b : Nat) : List Char × Utf8State :=
  if b < 0x80 then ([Char.ofNat b], .idle)
  else if b < 0xC2 then ([replacement], .idle)
  else if b < 0xE0 then ([], .inside (b - 0xC0) 0 0x80 0xBF)
  else if b == 0xE0 then ([], .inside 0 1 0xA0 0xBF)
  else if b == 0xED then ([], .inside 0xD 1 0x80 0x9F)
  else if b < 0xF0 then ([], .inside (b - 0xE0) 1 0x80 0xBF)
  else if b == 0xF0 then ([], .inside 0 2 0x90 0xBF)
  else if b < 0xF4 then ([], .inside (b - 0xF0) 2 0x80 0xBF)
  else if b == 0xF4 then ([], .inside 4 2 0x80 0x8F)
  else ([replacement], .idle)

/-- The effect of one byte. -/
def utf8Step (b : Nat) : Utf8State → List Char × Utf8State
  | .idle => leadByte b
  | .inside value more lo hi =>
    if lo ≤ b ∧ b ≤ hi then
      let value := value * 64 + (b - 0x80)
      match more with
      | 0 => ([Char.ofNat value], .idle)
      | more + 1 => ([], .inside value more 0x80 0xBF)
    else
      let (out, state) := leadByte b
      (replacement :: out, state)

/-- Read the remaining bytes from a state. -/
def decodeFrom : Utf8State → Bytes → List Char
  | .idle, [] => []
  | .inside .., [] => [replacement]
  | state, b :: bs =>
    let (out, next) := utf8Step b.toNat state
    out ++ decodeFrom next bs

/-- The text of a byte sequence. -/
def decode (bs : Bytes) : String := String.ofList (decodeFrom .idle bs)

/-- The byte order mark. -/
def byteOrderMark : Bytes := [0xEF, 0xBB, 0xBF]

/-- Drop one leading byte order mark. -/
def stripMark (bs : Bytes) : Bytes := (byteOrderMark.isPrefixOf? bs).getD bs

end Disposal.Text
