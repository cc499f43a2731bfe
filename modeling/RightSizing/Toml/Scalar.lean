import RightSizing.Json.Reader

/-!
# Scalars of TOML

A scalar without quotes is a run of characters that is read as a whole:

* `Toml.integer?`   decimal, or with `0x`, `0o`, `0b` in another base, within 64 signed bits
* `Toml.float?`     a number with a point or an exponent, an infinity, or not a number
* `Toml.moment?`    a date, a time, or both with an offset; its value is its text

Digits may be parted by single underscores.
-/

namespace RightSizing.Toml

/-- the digits of a group without its underscores, each of which stands between two digits -/
def groupedDigits? (isDigit : Char → Bool) : List Char → Option (List Char)
  | [] => none
  | [c] => if isDigit c then some [c] else none
  | c :: '_' :: cs => if isDigit c then (groupedDigits? isDigit cs).map (c :: ·) else none
  | c :: cs => if isDigit c then (groupedDigits? isDigit cs).map (c :: ·) else none

/-- decimal digits without a leading zero -/
def wholeDigits? (cs : List Char) : Option (List Char) :=
  match groupedDigits? Char.isDigit cs with
  | some ('0' :: _ :: _) => none
  | ds => ds

/-! ## Numbers -/

def isBaseDigit (base : Nat) (c : Char) : Bool := (Json.hexValue? c).any (· < base)

/-- a natural in another base, within 63 bits -/
def inBase? (base : Nat) (cs : List Char) : Option Int := do
  let ds ← groupedDigits? (isBaseDigit base) cs
  let n := ds.foldl (fun n c => base * n + (Json.hexValue? c).getD 0) 0
  if n < Nat.pow 2 63 then some n else none

def integer? : List Char → Option Int
  | '0' :: 'x' :: cs => inBase? 16 cs
  | '0' :: 'o' :: cs => inBase? 8 cs
  | '0' :: 'b' :: cs => inBase? 2 cs
  | cs => do
    let (negative, cs) := splitSign cs
    let n := ofDigits (← wholeDigits? cs)
    if negative then
      if n ≤ Nat.pow 2 63 then some (-(n : Int)) else none
    else if n < Nat.pow 2 63 then some n else none

/-- the power of ten behind the letter -/
def power? (cs : List Char) : Option Int := do
  let (negative, cs) := splitSign cs
  let n := ofDigits (← groupedDigits? Char.isDigit cs)
  some (if negative then -(n : Int) else n)

/-- a finite number with a point or an exponent, behind its sign -/
def decimal? (negative : Bool) (cs : List Char) : Option Binary64 := do
  let (whole, cs) := cs.span fun c => c.isDigit || c = '_'
  let whole ← wholeDigits? whole
  let (behind, cs) ← match cs with
    | '.' :: cs =>
      let (behind, cs) := cs.span fun c => c.isDigit || c = '_'
      (groupedDigits? Char.isDigit behind).map (·, cs)
    | 'e' :: _ | 'E' :: _ => some ([], cs)
    | _ => none
  let power ← match cs with
    | [] => some 0
    | 'e' :: cs | 'E' :: cs => power? cs
    | _ => none
  let x := Binary64.ofDecimal negative (ofDigits (whole ++ behind)) (power - (behind.length : Int))
  if x.isFinite then some x else none

def float? (cs : List Char) : Option Binary64 :=
  let (negative, cs) := splitSign cs
  if cs = ['i', 'n', 'f'] then some (.infinity negative)
  else if cs = ['n', 'a', 'n'] then some .nan
  else decimal? negative cs

/-! ## Dates and times -/

/-- a number of exactly `count` digits between two bounds, and the rest -/
def field? (count low high : Nat) (cs : List Char) : Option (List Char × List Char) :=
  let ds := cs.take count
  if ds.length = count ∧ ds.all Char.isDigit ∧ low ≤ ofDigits ds ∧ ofDigits ds ≤ high then
    some (ds, cs.drop count)
  else none

def isLeap (year : Nat) : Bool := year % 4 = 0 && (year % 100 ≠ 0 || year % 400 = 0)

def daysInMonth (year month : Nat) : Nat :=
  if month = 2 then (if isLeap year then 29 else 28)
  else if month = 4 ∨ month = 6 ∨ month = 9 ∨ month = 11 then 30
  else 31

def date? (cs : List Char) : Option (List Char × List Char) := do
  let (year, cs) ← field? 4 0 9999 cs
  let '-' :: cs := cs | none
  let (month, cs) ← field? 2 1 12 cs
  let '-' :: cs := cs | none
  let (day, cs) ← field? 2 1 (daysInMonth (ofDigits year) (ofDigits month)) cs
  some (year ++ '-' :: month ++ '-' :: day, cs)

/-- nine digits of a second at most, without zeros at the end -/
def fractionText (ds : List Char) : List Char :=
  match ((ds.take 9).reverse.dropWhile (· = '0')).reverse with
  | [] => []
  | ds => '.' :: ds

/-- `lastHour` is the greatest hour of a day -/
def time? (lastHour : Nat) (cs : List Char) : Option (List Char × List Char) := do
  let (hour, cs) ← field? 2 0 lastHour cs
  let ':' :: cs := cs | none
  let (minute, cs) ← field? 2 0 59 cs
  let ':' :: cs := cs | none
  let (second, cs) ← field? 2 0 60 cs
  let (behind, cs) ← Json.fraction? cs
  some (hour ++ ':' :: minute ++ ':' :: second ++ fractionText behind, cs)

/-- a number of two digits -/
def twoDigits (n : Nat) : List Char := digitsOf (n / 10) ++ digitsOf (n % 10)

/-- an offset in minutes; zero is written with a plus sign -/
def offsetText (negative : Bool) (minutes : Nat) : List Char :=
  (if negative ∧ minutes ≠ 0 then '-' else '+') :: twoDigits (minutes / 60) ++
    ':' :: twoDigits (minutes % 60)

/-- `lastHour` is as for a time; an offset of 24 hours is the greatest then -/
def offset? (lastHour : Nat) : List Char → Option (List Char)
  | [] => some []
  | ['Z'] | ['z'] => some ['Z']
  | sign :: cs => do
    if sign ≠ '+' ∧ sign ≠ '-' then none
    let lenient := 23 < lastHour
    let (hour, cs) ← field? 2 0 (if lenient then 99 else 23) cs
    let ':' :: cs := cs | none
    let (minute, cs) ← field? 2 0 (if lenient then 99 else 59) cs
    let [] := cs | none
    let minutes := 60 * ofDigits hour + ofDigits minute
    if minutes ≤ 24 * 60 then some (offsetText (sign = '-') minutes) else none

/-- a date, a time, or a date and a time; only the last may have an offset -/
def momentWithin? (lastHour : Nat) (cs : List Char) : Option (List Char) :=
  match date? cs with
  | some (date, []) => some date
  | some (date, separator :: cs) => do
    if separator ≠ 'T' ∧ separator ≠ 't' ∧ separator ≠ ' ' then none
    let (time, cs) ← time? lastHour cs
    some (date ++ 'T' :: (time ++ (← offset? lastHour cs)))
  | none => do
    let (time, cs) ← time? lastHour cs
    let [] := cs | none
    some time

def moment? (cs : List Char) : Option (List Char) := momentWithin? 23 cs

/-- a moment in a text is read more leniently -/
def writtenMoment? (cs : List Char) : Option (List Char) := momentWithin? 24 cs

/-! ## The whole scalar -/

def scalar? (cs : List Char) : Option Value :=
  if cs = ['t', 'r', 'u', 'e'] then some (.bool true)
  else if cs = ['f', 'a', 'l', 's', 'e'] then some (.bool false)
  else match integer? cs, float? cs, moment? cs with
    | some n, _, _ => some (.integer n)
    | none, some x, _ => some (.real x)
    | none, none, some text => some (.string (String.ofList text))
    | none, none, none => none

end RightSizing.Toml
