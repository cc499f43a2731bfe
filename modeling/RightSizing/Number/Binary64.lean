/-!
# Binary floating-point numbers, by their bits

A `Binary64` is the 64-bit word of a double.  Everything about it is computed from the word in
exact integer arithmetic, so that equality is decidable and every statement reduces in the kernel:

* `Binary64.significand`, `Binary64.scale`  the magnitude of a finite word is
                        `significand * 2 ^ scale`;
* `Binary64.ofRatio`    the double nearest to a quotient of naturals, a tie going to the even
                        significand and an overflow to infinity;
* `Binary64.ofDecimal`  the double nearest to `digits * 10 ^ exponent`;
* `Binary64.agree`      the comparison of values: both zeros agree, a NaN agrees with nothing;
* `Binary64.atMost`     comparison with a natural bound;
* `Binary64.roundToCount`  rounding to a 64-bit count, a half away from zero.
-/

namespace RightSizing

/-- a double, held by the bits of its interchange format -/
structure Binary64 where
  bits : UInt64
deriving DecidableEq, Repr, Inhabited

namespace Binary64

def negative (x : Binary64) : Bool := decide (Nat.pow 2 63 ≤ x.bits.toNat)

def exponentField (x : Binary64) : Nat := x.bits.toNat / Nat.pow 2 52 % Nat.pow 2 11

def fractionField (x : Binary64) : Nat := x.bits.toNat % Nat.pow 2 52

def isFinite (x : Binary64) : Bool := decide (x.exponentField ≠ 2047)

def isNaN (x : Binary64) : Bool := decide (x.exponentField = 2047 ∧ x.fractionField ≠ 0)

def isInfinite (x : Binary64) : Bool := decide (x.exponentField = 2047 ∧ x.fractionField = 0)

/-- both signed zeros -/
def isZero (x : Binary64) : Bool := decide (x.bits.toNat % Nat.pow 2 63 = 0)

/-- normal words carry a hidden leading bit, subnormal ones do not -/
def significand (x : Binary64) : Nat :=
  if x.exponentField = 0 then x.fractionField else Nat.pow 2 52 + x.fractionField

/-- subnormal words share the scale of the least normal ones -/
def scale (x : Binary64) : Int := (max x.exponentField 1 : Nat) - 1075

/-- the word of a sign and the lower 63 bits -/
def ofFields (negative : Bool) (magnitude : Nat) : Binary64 :=
  ⟨UInt64.ofNat ((if negative then Nat.pow 2 63 else 0) + magnitude)⟩

def zero : Binary64 := ⟨0⟩

def nan : Binary64 := ⟨0x7ff8000000000000⟩

def infinity (negative : Bool) : Binary64 := ofFields negative (2047 * Nat.pow 2 52)

/-- the quotient rounded to the nearest natural, a tie going to the even one -/
def divideToEven (num den : Nat) : Nat :=
  let q := num / den
  let r := num % den
  if 2 * r < den then q
  else if den < 2 * r then q + 1
  else q + q % 2

/-- the exponent of the greatest power of two that is not above `num / den` -/
def floorLog2 (num den : Nat) : Int :=
  let guess : Int := (num.log2 : Int) - (den.log2 : Int)
  let fits := if 0 ≤ guess then den * Nat.pow 2 guess.toNat ≤ num
    else den ≤ num * Nat.pow 2 (-guess).toNat
  if fits then guess else guess - 1

/-- the double nearest to `num / den`; the least bit of the significand weighs `2 ^ unit`, and a
carry out of the significand runs into the exponent field by itself -/
def ofRatio (negative : Bool) (num den : Nat) : Binary64 :=
  if num = 0 then ofFields negative 0
  else
    let unit := max (floorLog2 num den - 52) (-1074)
    let q := if 0 ≤ unit then divideToEven num (den * Nat.pow 2 unit.toNat)
      else divideToEven (num * Nat.pow 2 (-unit).toNat) den
    let magnitude := if q < Nat.pow 2 52 then q else (unit + 1074).toNat * Nat.pow 2 52 + q
    if 2047 * Nat.pow 2 52 ≤ magnitude then infinity negative else ofFields negative magnitude

def ofInt (n : Int) : Binary64 := ofRatio (decide (n < 0)) n.natAbs 1

/-- how many decimal digits a natural is written with -/
def digitCount (n : Nat) : Nat := (Nat.toDigits 10 n).length

/-- the double nearest to `digits * 10 ^ exponent`; what lies far outside the range of doubles is
decided by its order of magnitude, before any large power is taken -/
def ofDecimal (negative : Bool) (digits : Nat) (exponent : Int) : Binary64 :=
  let order := (digitCount digits : Int) + exponent
  if digits = 0 ∨ order < -330 then ofFields negative 0
  else if 330 < order then infinity negative
  else if 0 ≤ exponent then ofRatio negative (digits * Nat.pow 10 exponent.toNat) 1
  else ofRatio negative digits (Nat.pow 10 (-exponent).toNat)

/-! ## Comparison and rounding -/

/-- equality of values: the two zeros agree, and a NaN does not agree even with itself -/
def agree (x y : Binary64) : Bool :=
  !x.isNaN && !y.isNaN && (decide (x = y) || (x.isZero && y.isZero))

/-- the value is at most `bound`; never true of a NaN -/
def atMost (x : Binary64) (bound : Nat) : Bool :=
  if x.isNaN then false
  else if x.negative then true
  else if x.isInfinite then false
  else if 0 ≤ x.scale then decide (x.significand * Nat.pow 2 x.scale.toNat ≤ bound)
  else decide (x.significand ≤ bound * Nat.pow 2 (-x.scale).toNat)

/-- the nearest natural below `2 ^ 64`, a half rounding up; what is negative or no number counts
nothing, and what is too large counts the most -/
def roundToCount (x : Binary64) : Nat :=
  if x.isNaN || x.negative then 0
  else if x.isInfinite then Nat.pow 2 64 - 1
  else if 0 ≤ x.scale then min (x.significand * Nat.pow 2 x.scale.toNat) (Nat.pow 2 64 - 1)
  else min ((2 * x.significand + Nat.pow 2 (-x.scale).toNat) / Nat.pow 2 ((-x.scale).toNat + 1))
    (Nat.pow 2 64 - 1)

end Binary64

end RightSizing
