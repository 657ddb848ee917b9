/-!
# Floating-point numbers

The numbers of the binary interchange format with 64 bits, as exact values.  They occur in records
that are given from outside, where a line or a column may be written as such a number.

* `Double.ofBits` reads a number off its bits;
* `Double.toInt?` is the whole number that a floating-point number equals.
-/

namespace Disposal

/-- A floating-point number as an exact value. -/
inductive Double where
  /-- The number `mantissa * 2 ^ exponent`. -/
  | finite (mantissa exponent : Int)
  | infinite (negative : Bool)
  /-- No number at all. -/
  | undefined
  deriving DecidableEq, Repr, Inhabited

namespace Double

/-- The number of values of the fraction field, which has 52 bits. -/
def fractions : Nat := 4503599627370496

/-- The number of values of the exponent field, which has 11 bits. -/
def exponents : Nat := 2048

/-- The number with some bits: a sign, the exponent and the fraction.  The smallest exponent is
shared by the numbers without a hidden leading bit, the greatest one marks infinity and what is no
number. -/
def ofBits (bits : UInt64) : Double :=
  let n := bits.toNat
  let fraction := n % fractions
  let exponent := n / fractions % exponents
  let negative := n / fractions / exponents = 1
  if exponent = exponents - 1 then
    if fraction = 0 then .infinite negative else .undefined
  else
    let magnitude := if exponent = 0 then fraction else fraction + fractions
    .finite (if negative then -Int.ofNat magnitude else Int.ofNat magnitude)
      (Int.ofNat (max exponent 1) - 1075)

/-- The whole number that a floating-point number equals, if there is one. -/
def toInt? : Double → Option Int
  | .finite m (.ofNat e) => some (m * Int.ofNat (Nat.pow 2 e))
  | .finite m (.negSucc e) =>
    let divisor := Int.ofNat (Nat.pow 2 (e + 1))
    if m % divisor = 0 then some (m / divisor) else none
  | .infinite _ => none
  | .undefined => none

/-- Whether a floating-point number is a number and not infinite. -/
def isFinite : Double → Bool
  | .finite _ _ => true
  | .infinite _ => false
  | .undefined => false

end Double

end Disposal
