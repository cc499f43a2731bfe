import RightSizing.Number.Binary64

/-!
# The shortest decimal that reads back

`Binary64.shortest` gives the decimal with the fewest digits among those that round to a finite
double, and of these the one nearest to its value.  Two can be equally near; a `Tie` says which one
is meant.

The value and the ends of the interval that rounds to it are multiples of one power of ten, since
`2 ^ -k = 5 ^ k / 10 ^ k`; scaled by it all three are naturals (`Binary64.Interval`).  On the grid
of a power of ten only the two neighbours of the value need a test: if any grid point lies in an
interval around the value, so does one of them.  The grids are tried from coarse to fine, and the
finest one holds the value itself.
-/

namespace RightSizing

/-- the choice between two neighbours that are equally near -/
inductive Tie where
  /-- the greater one -/
  | up
  /-- the one with the even last digit -/
  | toEven
deriving DecidableEq, Repr

/-- the nearer of `down` and its successor, at the given distances -/
def Tie.nearer (tie : Tie) (down toDown toUp : Nat) : Nat :=
  if toDown < toUp then down
  else if toUp < toDown then down + 1
  else match tie with
    | .up => down + 1
    | .toEven => down + down % 2

/-- `digits * 10 ^ exponent` -/
structure Decimal where
  digits : Nat
  exponent : Int
deriving DecidableEq, Repr

namespace Decimal

/-- takes the trailing zeros of the digits into the exponent, `steps` of them at most -/
def trim : Nat → Decimal → Decimal
  | 0, d => d
  | steps + 1, d =>
    if d.digits ≠ 0 ∧ d.digits % 10 = 0 then trim steps ⟨d.digits / 10, d.exponent + 1⟩ else d

end Decimal

namespace Binary64

/-- a magnitude and the ends of the interval that rounds to it, all three times `10 ^ places` -/
structure Interval where
  low : Nat
  value : Nat
  high : Nat
  places : Nat
  closed : Bool
deriving Repr

/-- the half-way points to the neighbouring doubles; below a power of two the gap is half as wide,
and the ends belong to the interval when the significand is even -/
def interval (x : Binary64) : Interval :=
  let m := 4 * x.significand
  let below := if x.fractionField = 0 ∧ 1 < x.exponentField then 1 else 2
  let unit := x.scale - 2
  let weight := if 0 ≤ unit then Nat.pow 2 unit.toNat else Nat.pow 5 (-unit).toNat
  { low := (m - below) * weight
    value := m * weight
    high := (m + 2) * weight
    places := (-unit).toNat
    closed := x.significand % 2 = 0 }

def Interval.holds (i : Interval) (n : Nat) : Bool :=
  if i.closed then decide (i.low ≤ n ∧ n ≤ i.high) else decide (i.low < n ∧ n < i.high)

/-- the neighbours of the value on the multiples of `grid`; the nearer one, if both are inside -/
def Interval.pick (i : Interval) (tie : Tie) (grid : Nat) : Option Nat :=
  let down := i.value / grid
  let up := down + 1
  match i.holds (down * grid), i.holds (up * grid) with
  | true, true => some (tie.nearer down (i.value - down * grid) (up * grid - i.value))
  | true, false => some down
  | false, true => some up
  | false, false => none

/-- tries the grids `10 ^ place`, `10 ^ (place - 1)`, … -/
def Interval.search (i : Interval) (tie : Tie) : Nat → Decimal
  | 0 => ⟨i.value, -(i.places : Int)⟩
  | place + 1 =>
    match i.pick tie (Nat.pow 10 (place + 1)) with
    | some digits => ⟨digits, (place + 1 : Nat) - (i.places : Int)⟩
    | none => i.search tie place

/-- the decimal of a finite double, without sign and without trailing zeros -/
def shortest (x : Binary64) (tie : Tie) : Decimal :=
  let i := x.interval
  if i.value = 0 then ⟨0, 0⟩
  else
    let found := i.search tie (digitCount i.value)
    found.trim (digitCount found.digits)

end Binary64

end RightSizing
