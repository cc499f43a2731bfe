import RightSizing.Number.Shortest

/-!
# Texts of numbers

* `digitsOf`            the decimal digits of a natural;
* `intText`             an integer in decimal;
* `Binary64.plainText`  the shortest digits in positional notation, whatever the exponent, and no
                        point behind a whole number: `1`, `0.0000001`, `-0`; a tie goes up;
* `Binary64.markedText` the shortest digits with a mark of being no integer: a point, or an
                        exponent with its sign outside `10 ^ -5 … 10 ^ 15`: `1.0`, `1e+300`; a tie
                        goes to the even digit;
* `splitSign`           a sign in front of a text;
* `readDigits`          the leading digits of a text;
* `readUnsigned`        a whole text of digits, a plus sign allowed in front.
-/

namespace RightSizing

def digitsOf (n : Nat) : List Char := Nat.toDigits 10 n

def intText (n : Int) : String :=
  String.ofList (if n < 0 then '-' :: digitsOf n.natAbs else digitsOf n.natAbs)

def digitValue (c : Char) : Nat := c.toNat - '0'.toNat

/-- the value of a list of decimal digits -/
def ofDigits (cs : List Char) : Nat := cs.foldl (fun n c => 10 * n + digitValue c) 0

/-- whether a minus sign stands in front, and what follows the sign -/
def splitSign : List Char → Bool × List Char
  | '-' :: cs => (true, cs)
  | '+' :: cs => (false, cs)
  | cs => (false, cs)

/-- the digits that a text starts with, and the rest -/
def readDigits (cs : List Char) : List Char × List Char := cs.span Char.isDigit

/-- a natural in decimal; `limit` is the least one refused -/
def readUnsigned (limit : Nat) (s : String) : Option Nat :=
  let cs := match s.toList with
    | '+' :: cs => cs
    | cs => cs
  if cs.isEmpty || !cs.all Char.isDigit then none
  else if ofDigits cs < limit then some (ofDigits cs) else none

namespace Decimal

/-- positional notation without an exponent -/
def positional (d : Decimal) : List Char :=
  let cs := digitsOf d.digits
  if 0 ≤ d.exponent then
    if d.digits = 0 then cs else cs ++ List.replicate d.exponent.toNat '0'
  else
    let places := (-d.exponent).toNat
    if places < cs.length then
      cs.take (cs.length - places) ++ '.' :: cs.drop (cs.length - places)
    else '0' :: '.' :: (List.replicate (places - cs.length) '0' ++ cs)

/-- the power of ten of the first digit -/
def order (d : Decimal) : Int := ((digitsOf d.digits).length : Int) - 1 + d.exponent

/-- one digit before the point, and the exponent with its sign -/
def scientific (d : Decimal) : List Char :=
  let mantissa := match digitsOf d.digits with
    | c :: c' :: cs => c :: '.' :: c' :: cs
    | cs => cs
  mantissa ++ 'e' :: (if 0 ≤ d.order then '+' else '-') :: digitsOf d.order.natAbs

/-- positional within sixteen digits before the point and five zeros behind it -/
def marked (d : Decimal) : List Char :=
  if -5 ≤ d.order ∧ d.order ≤ 15 then
    if 0 ≤ d.exponent then d.positional ++ ['.', '0'] else d.positional
  else d.scientific

end Decimal

namespace Binary64

/-- the text of a double, its finite magnitude written by `write` -/
def textBy (tie : Tie) (write : Decimal → List Char) (x : Binary64) : String :=
  if x.isNaN then "NaN"
  else
    let magnitude := if x.isInfinite then ['i', 'n', 'f'] else write (x.shortest tie)
    String.ofList (if x.negative then '-' :: magnitude else magnitude)

def plainText (x : Binary64) : String := x.textBy .up Decimal.positional

def markedText (x : Binary64) : String := x.textBy .toEven Decimal.marked

end Binary64

end RightSizing
