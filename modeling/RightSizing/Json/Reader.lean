import RightSizing.Number.Text
import RightSizing.Text.Character
import RightSizing.Value

/-!
# Reading JSON

`Json.read?` gives the value of a JSON text, or nothing if it is none.  Each step takes characters
from the front of a list and returns the rest:

* `Json.string?`   the characters of a string behind its opening quote, escapes resolved and
                   surrogates paired;
* `Json.number?`   a number; without point and exponent it is an integer as long as 64 bits hold it;
* `Json.value?`    any value.  Its first argument bounds how deep arrays and objects nest and gives
                   the recursion its measure; the items of one level are read by `Json.items?` and
                   `Json.members?`, for which the length of the text is fuel enough, since each item
                   takes a character at least.
-/

namespace RightSizing.Json

def isBlank (c : Char) : Bool := c = ' ' || c = '\t' || c = '\n' || c = '\r'

def skipBlank (cs : List Char) : List Char := cs.dropWhile isBlank

def hexValue? (c : Char) : Option Nat :=
  if c.isDigit then some (c.toNat - '0'.toNat)
  else if 'a' ≤ c ∧ c ≤ 'f' then some (c.toNat - 'a'.toNat + 10)
  else if 'A' ≤ c ∧ c ≤ 'F' then some (c.toNat - 'A'.toNat + 10)
  else none

/-- the value of a list of hexadecimal digits -/
def hexNumber? (cs : List Char) : Option Nat :=
  cs.foldl (fun n c => n.bind fun n => (hexValue? c).map (16 * n + ·)) (some 0)

/-- a character by its code point in so many hexadecimal digits, and the rest; JSON itself has
surrogates instead -/
def coded? (count : Nat) (cs : List Char) : Option (Char × List Char) :=
  if cs.length < count then none
  else ((hexNumber? (cs.take count)).bind Text.ofCode?).map (·, cs.drop count)

/-- the character behind a backslash, all but the coded ones -/
def escaped? : Char → Option Char
  | '"' => some '"'
  | '\\' => some '\\'
  | '/' => some '/'
  | 'b' => some '\x08'
  | 'f' => some '\x0c'
  | 'n' => some '\n'
  | 'r' => some '\r'
  | 't' => some '\t'
  | _ => none

/-- a code unit of UTF-16 by its role -/
inductive CodeUnit where
  | scalar (c : Char)
  | high (bits : Nat)
  | low (bits : Nat)

def CodeUnit.ofNat (n : Nat) : CodeUnit :=
  if 0xd800 ≤ n ∧ n < 0xdc00 then high (n - 0xd800)
  else if 0xdc00 ≤ n ∧ n < 0xe000 then low (n - 0xdc00)
  else scalar (Char.ofNat n)

/-- `pending` is a high surrogate whose other half has to come next -/
def string? (pending : Option Nat) : List Char → Option (List Char × List Char)
  | [] => none
  | '"' :: cs => if pending.isSome then none else some ([], cs)
  | '\\' :: 'u' :: a :: b :: c :: d :: cs => do
    match pending, CodeUnit.ofNat (← hexNumber? [a, b, c, d]) with
    | none, .scalar x => let (text, cs) ← string? none cs; some (x :: text, cs)
    | none, .high bits => string? (some bits) cs
    | some bits, .low bits' =>
      let (text, cs) ← string? none cs
      some (Char.ofNat (0x10000 + bits * 0x400 + bits') :: text, cs)
    | _, _ => none
  | '\\' :: e :: cs => do
    if pending.isSome then none
    let x ← escaped? e
    let (text, cs) ← string? none cs
    some (x :: text, cs)
  | x :: cs => do
    if pending.isSome || x.toNat < 0x20 then none
    let (text, cs) ← string? none cs
    some (x :: text, cs)

/-! ## Numbers -/

/-- the digits behind a point, if there is one -/
def fraction? : List Char → Option (List Char × List Char)
  | '.' :: cs => match readDigits cs with
    | ([], _) => none
    | (ds, cs) => some (ds, cs)
  | cs => some ([], cs)

/-- a power of ten behind the letter, if there is one -/
def exponent? (cs : List Char) : Option (Option Int × List Char) :=
  let signed (sign : Int) (cs : List Char) := match readDigits cs with
    | ([], _) => none
    | (ds, cs) => some (some (sign * (ofDigits ds : Int)), cs)
  match cs with
  | 'e' :: '-' :: cs | 'E' :: '-' :: cs => signed (-1) cs
  | 'e' :: '+' :: cs | 'E' :: '+' :: cs => signed 1 cs
  | 'e' :: cs | 'E' :: cs => signed 1 cs
  | cs => some (none, cs)

/-- a number written without point and exponent; minus zero and what 64 bits do not hold are
doubles -/
def wholeNumber (negative : Bool) (n : Nat) : Number :=
  if negative then
    if 0 < n ∧ n ≤ Nat.pow 2 63 then .integer (-(n : Int)) else .real (Binary64.ofDecimal true n 0)
  else if n < Nat.pow 2 64 then .integer n else .real (Binary64.ofDecimal false n 0)

/-- the digits in front of the point, without a leading zero -/
def whole? : List Char → Option (List Char × List Char)
  | '0' :: cs => some (['0'], cs)
  | cs => match readDigits cs with
    | ([], _) => none
    | (ds, cs) => some (ds, cs)

/-- the number of a sign, the digits on both sides of the point, and a power of ten -/
def numberOf (negative : Bool) (whole behind : List Char) : Option Int → Number
  | none =>
    if behind.isEmpty then wholeNumber negative (ofDigits whole)
    else .real (Binary64.ofDecimal negative (ofDigits (whole ++ behind)) (-(behind.length : Int)))
  | some power =>
    .real (Binary64.ofDecimal negative (ofDigits (whole ++ behind))
      (power - (behind.length : Int)))

/-- no infinite result -/
def finite? : Number → Option Number
  | .real x => if x.isFinite then some (.real x) else none
  | .integer n => some (.integer n)

def unsigned? (negative : Bool) (cs : List Char) : Option (Number × List Char) := do
  let (whole, cs) ← whole? cs
  let (behind, cs) ← fraction? cs
  let (power, cs) ← exponent? cs
  let n ← finite? (numberOf negative whole behind power)
  some (n, cs)

def number? : List Char → Option (Number × List Char)
  | '-' :: cs => unsigned? true cs
  | cs => unsigned? false cs

/-! ## Values -/

def scalar? : List Char → Option (Value × List Char)
  | 'n' :: 'u' :: 'l' :: 'l' :: cs => some (.null, cs)
  | 't' :: 'r' :: 'u' :: 'e' :: cs => some (.bool true, cs)
  | 'f' :: 'a' :: 'l' :: 's' :: 'e' :: cs => some (.bool false, cs)
  | '"' :: cs => (string? none cs).map fun (text, cs) => (.string (String.ofList text), cs)
  | cs => (number? cs).map fun (n, cs) => (.number n, cs)

/-- the items of an array behind its bracket, one at least -/
def items? (item : List Char → Option (Value × List Char)) :
    Nat → List Char → Option (List Value × List Char)
  | 0, _ => none
  | fuel + 1, cs => do
    let (x, cs) ← item cs
    match skipBlank cs with
    | ',' :: cs => let (xs, cs) ← items? item fuel cs; some (x :: xs, cs)
    | ']' :: cs => some ([x], cs)
    | _ => none

/-- the members of an object behind its brace, one at least -/
def members? (item : List Char → Option (Value × List Char)) :
    Nat → List Char → Option (Value.Members × List Char)
  | 0, _ => none
  | fuel + 1, cs => do
    match skipBlank cs with
    | '"' :: cs =>
      let (name, cs) ← string? none cs
      match skipBlank cs with
      | ':' :: cs =>
        let (x, cs) ← item cs
        match skipBlank cs with
        | ',' :: cs =>
          let (ms, cs) ← members? item fuel cs
          some ((String.ofList name, x) :: ms, cs)
        | '}' :: cs => some ([(String.ofList name, x)], cs)
        | _ => none
      | _ => none
    | _ => none

def value? : Nat → List Char → Option (Value × List Char)
  | 0, cs => scalar? (skipBlank cs)
  | depth + 1, cs =>
    match skipBlank cs with
    | '[' :: cs => match skipBlank cs with
      | ']' :: cs => some (.array [], cs)
      | cs => (items? (value? depth) (cs.length + 1) cs).map fun (xs, cs) => (.array xs, cs)
    | '{' :: cs => match skipBlank cs with
      | '}' :: cs => some (.object [], cs)
      | cs => (members? (value? depth) (cs.length + 1) cs).map fun (ms, cs) =>
        (Value.ofMembers ms, cs)
    | cs => scalar? cs

/-- how many arrays and objects may stand inside each other -/
def nestingLimit : Nat := 127

/-- the value of a whole text.  Its decimals become the nearest doubles; a reader that rounds less
carefully may give a neighbour of them -/
def read? (s : String) : Option Value :=
  match value? nestingLimit s.toList with
  | some (x, cs) => if (skipBlank cs).isEmpty then some x else none
  | none => none

end RightSizing.Json
