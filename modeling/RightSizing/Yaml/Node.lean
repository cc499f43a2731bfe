import RightSizing.Json.Reader

/-!
# Nodes of a YAML document

A `Node` is what a document means: scalars, lists and mappings.  A scalar without quotes means a
number, a truth value or null if it is written like one, and a text otherwise (`Scalar.ofPlain`); a
tag can demand a kind, and a scalar that is not of this kind means nothing (`Node.missing`).

* `Node.ofEntries?`  the mapping of some keys and values in turn; no key may come twice
* `Node.value?`      the value of a node, in which keys are texts and what means nothing is null
-/

namespace RightSizing.Yaml

inductive Scalar where
  | null
  | bool (b : Bool)
  | integer (n : Int)
  /-- a number with a point, an exponent or a name, as it is written -/
  | real (text : String)
  | text (s : String)
deriving DecidableEq, Repr

namespace Scalar

/-- digits of some base behind a sign, within 64 signed bits -/
def inBase? (base : Nat) (cs : List Char) : Option Int :=
  let (negative, cs) := splitSign cs
  if cs.isEmpty || !cs.all fun c => (Json.hexValue? c).any (· < base) then none
  else
    let n := cs.foldl (fun n c => base * n + (Json.hexValue? c).getD 0) 0
    if negative then (if n ≤ Nat.pow 2 63 then some (-(n : Int)) else none)
    else if n < Nat.pow 2 63 then some n else none

/-- an integer; `0x` and `0o` stand for the bases 16 and 8, and a plus sign may stand in front of
another sign -/
def integer? (cs : List Char) : Option Int :=
  match cs with
  | '0' :: 'x' :: ds => inBase? 16 ds
  | '0' :: 'o' :: ds => inBase? 8 ds
  | '+' :: ds => (inBase? 10 ds).or (inBase? 10 cs)
  | cs => inBase? 10 cs

/-- a number in decimal, digits missing on one side of the point at most, or a named one -/
def double? (cs : List Char) : Option Binary64 := do
  let (negative, cs) := splitSign cs
  let name := String.ofList (cs.map Char.toLower)
  if name = "inf" ∨ name = "infinity" then some (.infinity negative)
  else if name = "nan" then some .nan
  else
    let (whole, cs) := readDigits cs
    let (behind, cs) := match cs with
      | '.' :: cs => readDigits cs
      | cs => ([], cs)
    if whole.isEmpty && behind.isEmpty then none
    let (power, cs) ← Json.exponent? cs
    let [] := cs | none
    some (.ofDecimal negative (ofDigits (whole ++ behind)) (power.getD 0 - (behind.length : Int)))

/-- names of numbers that are told apart from texts but have no value -/
def realNames : List String :=
  [".inf", ".Inf", ".INF", "+.inf", "+.Inf", "+.INF", "-.inf", "-.Inf", "-.INF", ".nan", ".NAN"]

def isReal (s : String) : Bool := realNames.contains s || (double? s.toList).isSome

def ofPlain (s : String) : Scalar :=
  if s = "~" ∨ s = "null" then null
  else if s = "true" then bool true
  else if s = "false" then bool false
  else match integer? s.toList with
    | some n => integer n
    | none => if isReal s then real s else text s

/-- the scalar of the kind that a tag demands -/
def ofKind? (kind s : String) : Option Scalar :=
  match kind with
  | "bool" => if s = "true" ∨ s = "false" then some (bool (s = "true")) else none
  | "int" => (inBase? 10 s.toList).map integer
  | "float" => if isReal s then some (real s) else none
  | "null" => if s = "~" ∨ s = "null" then some null else none
  | _ => some (text s)

/-- a scalar as a key -/
def key? : Scalar → Option String
  | null => none
  | bool b => some (if b then "true" else "false")
  | integer n => some (intText n)
  | real s | text s => some s

def value? : Scalar → Option Value
  | null => some .null
  | bool b => some (.bool b)
  | integer n => some (.integer n)
  | real s => (double? s.toList).map .real
  | text s => some (.string s)

end Scalar

/-! ## Nodes -/

inductive Node where
  /-- what means nothing -/
  | missing
  | scalar (s : Scalar)
  | list (items : List Node)
  | mapping (pairs : List (Node × Node))
deriving BEq

namespace Node

def null : Node := scalar .null

/-- `key` is waiting for its value; a node that means nothing is no key, and a key that waits in
vain is left out -/
def pairsFrom? (key : Option Node) (pairs : List (Node × Node)) :
    List Node → Option (List (Node × Node))
  | [] => some pairs
  | node :: nodes =>
    match key, node with
    | none, missing => pairsFrom? none pairs nodes
    | none, node => pairsFrom? (some node) pairs nodes
    | some key, node =>
      if (pairs.lookup key).isSome then none
      else pairsFrom? none (pairs ++ [(key, node)]) nodes

def ofEntries? (nodes : List Node) : Option Node := (pairsFrom? none [] nodes).map mapping

mutual

def value? : Node → Option Value
  | missing => some .null
  | scalar s => s.value?
  | list items => (values? items).map .array
  | mapping pairs => (members? pairs).map Value.ofMembers

def values? : List Node → Option (List Value)
  | [] => some []
  | node :: nodes => do
    let x ← value? node
    some (x :: (← values? nodes))

def members? : List (Node × Node) → Option Value.Members
  | [] => some []
  | (key, node) :: pairs => do
    let scalar s := key | none
    let name ← s.key?
    let x ← value? node
    some ((name, x) :: (← members? pairs))

end

end Node

end RightSizing.Yaml
