import RightSizing.Number.Text
import RightSizing.Text.Lowercase
import RightSizing.Value

/-!
# Keys that are paths

A key of a settings file can lead into a value: `a.b[0]` means the first item of the list `b` of the
table `a`.  `KeyPath.ofText` reads a key as a path; a key that is none stands for itself.  Keys are
written in lower case before they are compared.

* `place`     puts a value where a path leads to, and makes what is missing on the way
* `assign`    sets a key of a table; a table given for a table is merged into it, key by key
* `merge`     the table that all keys of a file make together, each placed in turn
-/

namespace RightSizing.Settings

inductive Step where
  | child (key : String)
  /-- counted from the end if negative -/
  | index (i : Int)
deriving DecidableEq, Repr

abbrev KeyPath := List Step

def isNameChar (c : Char) : Bool := Text.isWordChar c || c = ' '

/-- a name, and the rest -/
def name? (cs : List Char) : Option (String × List Char) :=
  let name := cs.takeWhile isNameChar
  if name.isEmpty then none else some (String.ofList name, cs.dropWhile isNameChar)

/-- whether a minus sign stands in front, and what follows it -/
def splitMinus : List Char → Bool × List Char
  | '-' :: cs => (true, cs)
  | cs => (false, cs)

/-- an integer of 64 bits in front of a closing bracket, blanks around it, and the rest -/
def subscript? (cs : List Char) : Option (Int × List Char) :=
  let (negative, cs) := splitMinus (cs.dropWhile Text.isBlank)
  let digits := cs.takeWhile Char.isDigit
  match (cs.dropWhile Char.isDigit).dropWhile Text.isBlank with
  | ']' :: rest =>
    let i : Int := if negative then -(ofDigits digits : Int) else ofDigits digits
    if digits.isEmpty ∨ i < -(Nat.pow 2 63) ∨ Nat.pow 2 63 ≤ i then none else some (i, rest)
  | _ => none

/-- one step, and the rest -/
def step? : List Char → Option (Step × List Char)
  | '.' :: cs => (name? cs).map fun (name, rest) => (.child name, rest)
  | '[' :: cs => (subscript? cs).map fun (i, rest) => (.index i, rest)
  | _ => none

section
variable {cs rest : List Char}

theorem length_le_of_name? {name : String} (h : name? cs = some (name, rest)) :
    rest.length ≤ cs.length := by
  obtain ⟨-, heq⟩ := Option.ite_none_left_eq_some.mp h
  cases heq
  exact (List.dropWhile_suffix _).length_le

theorem length_splitMinus_le (cs : List Char) : (splitMinus cs).2.length ≤ cs.length := by
  unfold splitMinus
  split
  · exact Nat.le_succ _
  · exact Nat.le_refl _

theorem length_lt_of_subscript? {i : Int} (h : subscript? cs = some (i, rest)) :
    rest.length < cs.length := by
  unfold subscript? at h
  dsimp only at h
  have hfront := (List.dropWhile_suffix Text.isBlank (l := cs)).length_le
  have hsign := length_splitMinus_le (cs.dropWhile Text.isBlank)
  generalize (splitMinus (cs.dropWhile Text.isBlank)).2 = behind at h hsign
  have hdigits := (List.dropWhile_suffix Char.isDigit (l := behind)).length_le
  have hbehind := (List.dropWhile_suffix Text.isBlank (l := behind.dropWhile Char.isDigit)).length_le
  split at h
  · next heq =>
    obtain ⟨-, h⟩ := Option.ite_none_left_eq_some.mp h
    cases h
    rw [heq, List.length_cons] at hbehind
    omega
  · cases h

/-- a step takes its first character at least -/
theorem length_lt_of_step? {step : Step} (h : step? cs = some (step, rest)) :
    rest.length < cs.length := by
  unfold step? at h
  split at h
  · obtain ⟨⟨name, rest'⟩, hname, heq⟩ := Option.map_eq_some_iff.mp h
    cases heq
    exact Nat.lt_succ_of_le (length_le_of_name? hname)
  · obtain ⟨⟨i, rest'⟩, hindex, heq⟩ := Option.map_eq_some_iff.mp h
    cases heq
    exact Nat.lt_succ_of_lt (length_lt_of_subscript? hindex)
  · cases h

end

/-- all steps behind the first name -/
def steps? (cs : List Char) : Option KeyPath :=
  if cs.isEmpty then some []
  else match _h : step? cs with
    | none => none
    | some (step, rest) => (steps? rest).map (step :: ·)
termination_by cs.length
decreasing_by exact length_lt_of_step? _h

def KeyPath.ofText (key : String) : KeyPath :=
  let path? := (name? key.toList).bind fun (name, rest) => (steps? rest).map (.child name :: ·)
  path?.getD [.child key]

/-! ## Placing a value -/

/-- the members of a table; of anything else there are none -/
def tableOf : Value → Value.Members
  | .object members => members
  | _ => []

def itemsOf : Value → List Value
  | .array items => items
  | _ => []

mutual

def assign (key : String) (old : Value) : Value → Value
  | .object incoming =>
    let table := tableOf old
    let target := (Value.find? table (Text.lower key)).getD (.object [])
    .object (Value.insert (Text.lower key) (assignAll target incoming) table)
  | x => .object (Value.insert (Text.lower key) x (tableOf old))

/-- a value that gets no members stays as it is -/
def assignAll (old : Value) : Value.Members → Value
  | [] => old
  | (key, x) :: members => assignAll (assign key old x) members

end

/-- changes an item; a list that is too short is filled up with nulls -/
def changeItem (i : Int) (change : Value → Value) (items : List Value) : List Value :=
  if 0 ≤ i then
    (items ++ List.replicate (i.toNat + 1 - items.length) Value.null).modify i.toNat change
  else
    let missing := i.natAbs - items.length
    (List.replicate missing Value.null ++ items).modify (items.length - i.natAbs) change

def place (x : Value) : KeyPath → Value → Value
  | [], _ => x
  | [.child key], old => assign key old x
  | .child key :: step :: path, old =>
    let inner := (Value.find? (tableOf old) (Text.lower key)).getD .null
    .object (Value.insert (Text.lower key) (place x (step :: path) inner) (tableOf old))
  | .index i :: path, old => .array (changeItem i (place x path) (itemsOf old))

def merge (members : Value.Members) : Value.Members :=
  tableOf (members.foldl (fun root (key, x) => place x (KeyPath.ofText key) root) (.object []))

/-- the keys of the merged table that are made of parts only -/
def madeOfParts (members : Value.Members) : List String :=
  let paths := members.map fun (key, _) => KeyPath.ofText key
  let whole := paths.filterMap fun path =>
    match path with
    | [.child key] => some (Text.lower key)
    | _ => none
  let rooted := paths.filterMap fun path =>
    match path with
    | .child root :: _ :: _ => some (Text.lower root)
    | _ => none
  rooted.filter fun root => !whole.contains root

end RightSizing.Settings
