import RightSizing.Number.Binary64

/-!
# Values of documents

A `Value` is what a JSON, TOML or YAML text denotes.  An object is a list of members; a member is
found by its name (`Value.find?`), and `Value.insert` keeps the names of a list sorted and distinct,
so that two texts with the same members denote the same list.

Whole numbers and doubles are told apart by the way they were written: `1` and `1.0` are different
numbers.
-/

namespace RightSizing

inductive Number where
  | integer (n : Int)
  | real (x : Binary64)
deriving DecidableEq, Repr

inductive Value where
  | null
  | bool (b : Bool)
  | number (n : Number)
  | string (s : String)
  | array (items : List Value)
  | object (members : List (String × Value))
deriving Repr, Inhabited

namespace Value

/-- the members of an object, or of any other collection of named values -/
abbrev Members := List (String × Value)

def integer (n : Int) : Value := number (.integer n)

def real (x : Binary64) : Value := number (.real x)

def find? (members : Members) (name : String) : Option Value := members.lookup name

/-- sets a member; sorted names stay sorted -/
def insert (name : String) (value : Value) : Members → Members
  | [] => [(name, value)]
  | (other, old) :: rest =>
    if name < other then (name, value) :: (other, old) :: rest
    else if name = other then (name, value) :: rest
    else (other, old) :: insert name value rest

/-- members in the order of their names; of several members with one name the last counts -/
def sorted (members : Members) : Members :=
  members.foldl (fun done (name, value) => insert name value done) []

def ofMembers (members : Members) : Value := object (sorted members)

theorem find?_nil (name : String) : find? [] name = none := rfl

theorem find?_cons (name key : String) (value : Value) (members : Members) :
    find? ((key, value) :: members) name =
      if name = key then some value else find? members name := by
  by_cases h : name = key
  · rw [if_pos h, h]
    exact List.lookup_cons_self
  · rw [if_neg h]
    unfold find?
    rw [List.lookup_cons, beq_false_of_ne h]

theorem mem_of_find? {members : Members} {name : String} {x : Value}
    (h : find? members name = some x) : (name, x) ∈ members := by
  induction members with
  | nil => cases h
  | cons member members ih =>
    obtain ⟨key, value⟩ := member
    rw [find?_cons] at h
    split at h
    · rename_i hname
      cases h
      rw [hname]
      exact List.mem_cons_self
    · exact List.mem_cons_of_mem _ (ih h)

theorem find?_insert (name key : String) (value : Value) (members : Members) :
    find? (insert name value members) key =
      if key = name then some value else find? members key := by
  induction members with
  | nil => rw [insert, find?_cons]
  | cons member rest ih =>
    obtain ⟨other, old⟩ := member
    rw [insert]
    split
    · rw [find?_cons]
    · split
      · rename_i hname
        rw [find?_cons, find?_cons, hname]
        split <;> rfl
      · rename_i hname
        rw [find?_cons, find?_cons, ih]
        by_cases hkey : key = other
        · rw [if_pos hkey, if_neg (hkey ▸ Ne.symm hname), if_pos hkey]
        · rw [if_neg hkey, if_neg hkey]

/-! ## Agreement

Two numbers agree when they are written alike and have the same value; a whole number never agrees
with a double. -/

end Value

def Number.agree : Number → Number → Bool
  | .integer m, .integer n => decide (m = n)
  | .real x, .real y => x.agree y
  | _, _ => false

namespace Value

mutual

def agree : Value → Value → Bool
  | null, null => true
  | bool a, bool b => a == b
  | number m, number n => m.agree n
  | string s, string t => decide (s = t)
  | array xs, array ys => agreeItems xs ys
  | object ms, object ns => agreeMembers ms ns
  | _, _ => false

def agreeItems : List Value → List Value → Bool
  | [], [] => true
  | x :: xs, y :: ys => agree x y && agreeItems xs ys
  | _, _ => false

def agreeMembers : Members → Members → Bool
  | [], [] => true
  | (a, x) :: ms, (b, y) :: ns => decide (a = b) && agree x y && agreeMembers ms ns
  | _, _ => false

end

end Value

end RightSizing
