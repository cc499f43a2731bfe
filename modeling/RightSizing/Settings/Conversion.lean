import RightSizing.Settings.Loader
import RightSizing.Text.Lowercase

/-!
# Loosely written settings

A value of another kind than asked for is converted where that makes sense:

* `Settings.toCount`   whole numbers, truth values as one and zero, doubles rounded with a half away
                       from zero, and texts that say any of these
* `Settings.narrow`    what 32 bits hold
* `Settings.toText`    texts, and numbers and truth values by their text
* `Settings.toLevel`   the name of a level in any case, or a table with that one key

A double stands for a whole number that 64 signed bits do not hold.
-/

namespace RightSizing.Settings

def unfit (key wanted : String) (held : Held) : SettingsError :=
  let found := match held.value with
    | .string s => .string s
    | .number (.integer n) => .signed n
    | .array _ => .sequence
    | .object _ => .map
    | _ => .unit
  .unfit found wanted key held.origin

/-- the count that a text stands for -/
def countOfText? (s : String) : Option Nat :=
  let word := Text.lower s
  if word = "true" ∨ word = "on" ∨ word = "yes" then some 1
  else if word = "false" ∨ word = "off" ∨ word = "no" then some 0
  else readUnsigned (Nat.pow 2 64) s

/-- a whole number that 64 signed bits do not hold counts as a double -/
def signed (n : Int) : Number :=
  if -(Nat.pow 2 63) ≤ n ∧ n < Nat.pow 2 63 then .integer n else .real (Binary64.ofInt n)

/-- a count of 64 bits -/
def toCount (key : String) (held : Held) : Except SettingsError Nat :=
  match held.value with
  | .bool b => .ok (if b then 1 else 0)
  | .number (.real x) => .ok x.roundToCount
  | .number (.integer n) =>
    match signed n with
    | .real x => .ok x.roundToCount
    | .integer n =>
      if 0 ≤ n then .ok n.toNat
      else .error (unfit key "an unsigned 64 bit or less integer" held)
  | .string s =>
    match countOfText? s with
    | some n => .ok n
    | none => .error (unfit key "an integer" held)
  | _ => .error (unfit key "an integer" held)

/-- a count of 32 bits; what is refused has lost its origin -/
def narrow (key : String) (n : Nat) : Except SettingsError UInt32 :=
  if n < Nat.pow 2 32 then .ok (UInt32.ofNat n)
  else .error (.unfit (.unsigned n) "an unsigned 32 bit integer" key none)

def toText (key : String) (held : Held) : Except SettingsError String :=
  match held.value with
  | .string s => .ok s
  | .bool b => .ok (if b then "true" else "false")
  | .number (.real x) => .ok x.plainText
  | .number (.integer n) =>
    match signed n with
    | .real x => .ok x.plainText
    | .integer n => .ok (intText n)
  | _ => .error (unfit key "a string" held)

def levelOfName (name : String) : Except SettingsError LogLevel :=
  match LogLevel.all.find? fun l => Text.lower l.name = Text.lower name with
  | some l => .ok l
  | none => .error (.unknownLevel name)

def toLevel (held : Held) : Except SettingsError LogLevel :=
  match held.value with
  | .string name => levelOfName name
  | .object [(name, _)] => levelOfName name
  | _ => .error .shapelessLevel

end RightSizing.Settings
