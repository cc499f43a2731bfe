import RightSizing.Record.DecodeError

/-!
# Codecs: a type as values

A `Codec` reads a type from values and writes it as values.  Reading is strict: a count is a whole
number within its width, never a double and never a text.

* `Codec.text`, `Codec.count32`, `Codec.count64`, `Codec.double`, `Codec.free`  the scalars, and a
                       value kept as it is;
* `Codec.list`         arrays; the first bad item is the error;
* `Codec.optional`     null is nothing;
* `Codec.choice`       one of several names, also as an object of that one name with null.
-/

namespace RightSizing

structure Codec (α : Type) where
  read : Value → Except DecodeError α
  write : α → Value

namespace Codec

def mistyped (x : Value) (wanted : String) : DecodeError :=
  .invalidType (.ofValue x) wanted

def text : Codec String where
  read
    | .string s => .ok s
    | x => .error (mistyped x "a string")
  write := .string

/-- reads a whole number below `limit` -/
def readCount (limit : Nat) (wanted : String) : Value → Except DecodeError Nat
  | .number (.integer n) =>
    if 0 ≤ n ∧ n.toNat < limit then .ok n.toNat
    else .error (.invalidValue (.integer n) wanted)
  | x => .error (mistyped x wanted)

def count32 : Codec UInt32 where
  read x := (readCount (Nat.pow 2 32) "u32" x).map UInt32.ofNat
  write n := .integer n.toNat

def count64 : Codec UInt64 where
  read x := (readCount (Nat.pow 2 64) "u64" x).map UInt64.ofNat
  write n := .integer n.toNat

/-- a whole number is read as the double nearest to it; what is not finite has no number to write -/
def double : Codec Binary64 where
  read
    | .number (.integer n) => .ok (.ofInt n)
    | .number (.real x) => .ok x
    | x => .error (mistyped x "f64")
  write x := if x.isFinite then .real x else .null

def free : Codec Value where
  read := .ok
  write := id

/-- reads all items, or finds the first that cannot be read -/
def readAll (item : Value → Except DecodeError α) : List Value → Except DecodeError (List α)
  | [] => .ok []
  | x :: xs => do
    let a ← item x
    let rest ← readAll item xs
    return a :: rest

def list (item : Codec α) : Codec (List α) where
  read
    | .array xs => readAll item.read xs
    | x => .error (mistyped x "a sequence")
  write xs := .array (xs.map item.write)

def optional (inner : Codec α) : Codec (Option α) where
  read
    | .null => .ok none
    | x => (inner.read x).map some
  write
    | none => .null
    | some a => inner.write a

/-- the item of a table with a given name -/
def named? (table : List (String × α)) (name : String) : Except DecodeError α :=
  match table.lookup name with
  | some a => .ok a
  | none => .error (.unknownVariant name (table.map (·.1)))

def choice (table : List (String × α)) (nameOf : α → String) : Codec α where
  read
    | .string name => named? table name
    | .object [(name, content)] => do
      let a ← named? table name
      match content with
      | .null => return a
      | x => throw (mistyped x "unit")
    | .object _ => .error (.invalidValue .map "map with a single key")
    | x => .error (mistyped x "string or map")
  write a := .string (nameOf a)

theorem readAll_nil (item : Value → Except DecodeError α) : readAll item [] = .ok [] := rfl

theorem readAll_cons (item : Value → Except DecodeError α) (x : Value) (xs : List Value) :
    readAll item (x :: xs) = (item x).bind fun a => (readAll item xs).map (a :: ·) := by
  simp only [readAll, bind, pure, Except.pure]
  cases item x with
  | error e => rfl
  | ok a => cases h : readAll item xs <;> rfl

end Codec

end RightSizing
