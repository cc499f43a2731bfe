import RightSizing.Settings.Loader
import RightSizing.Text.Lowercase

/-!
# What loaders are known to do

Finding and reading a file, making one table of it and converting values is the business of a
loader.  `Loader.Documented` is what may be relied on, whatever the loader: each law is about one of
its functions, and says something only where that function gives a result.

Left open are the formats and the order in which they are tried, how texts are read and decimals
rounded, and which of several spellings of a key counts.

* `Settings.written`       the values that a file gives under a name
* `Value.StandsFor`        the values that a whole number may be read as
* `Loader.Documented`      the laws
-/

namespace RightSizing

/-- 64 signed bits hold the number -/
def FitsSigned (n : Int) : Prop := -(Nat.pow 2 63) ≤ n ∧ n < Nat.pow 2 63

instance (n : Int) : Decidable (FitsSigned n) := inferInstanceAs (Decidable (_ ∧ _))

theorem below_or_above {n : Int} (h : ¬ FitsSigned n) :
    n < -(Nat.pow 2 63) ∨ (Nat.pow 2 63 : Int) ≤ n := by
  unfold FitsSigned at h
  omega

namespace Settings

/-- a key that leads into no value, since it has neither a dot nor an opening bracket -/
def IsPlain (key : String) : Prop := '.' ∉ key.toList ∧ '[' ∉ key.toList

instance (key : String) : Decidable (IsPlain key) := inferInstanceAs (Decidable (_ ∧ _))

/-- the values that a file gives under a name.  A key counts in whatever case it is written, so a
name is absent from a file if none of its spellings is there -/
def written (members : Value.Members) (name : String) : List Value :=
  (members.filter fun member => Text.lower member.1 = name).map (·.2)

end Settings

/-- the values that a whole number of a file may be read as.  Beyond 64 signed bits it may become a
double of its sign and order of size, or nothing; minus zero may become a double too -/
inductive Value.StandsFor (n : Int) : Value → Prop where
  | itself (h : -(Nat.pow 2 63) ≤ n) : StandsFor n (.integer n)
  | minusZero (h : n = 0) : StandsFor n (.real (.ofDecimal true 0 0))
  | below {x : Binary64} (h : n < -(Nat.pow 2 63)) (hx : x.negative = true) : StandsFor n (.real x)
  | above {x : Binary64} (h : Nat.pow 2 63 ≤ n) (hx : Nat.pow 2 63 ≤ x.roundToCount) :
    StandsFor n (.real x)
  | nothing (h : ¬ FitsSigned n) : StandsFor n .null

/-- `reads n x` says that the loader reads `x` where a file gives the whole number `n` -/
structure Loader.Documented (loader : Loader) (reads : Int → Value → Prop) : Prop where
  /-- whole numbers are kept where they fit -/
  standsFor {n : Int} {x : Value} : reads n x → x.StandsFor n
  /-- keys are matched by their lower case -/
  held?_eq_none_iff {origin : String} {members : Value.Members} {name : String} :
    (∀ m ∈ members, Settings.IsPlain m.1) →
    (loader.held? origin members name = none ↔ Settings.written members name = [])
  /-- one of the spellings of a key counts; but tables are merged -/
  mem_written {origin : String} {members : Value.Members} {name : String} {held : Held} :
    (∀ m ∈ members, Settings.IsPlain m.1) → loader.held? origin members name = some held →
    (∀ table, held.value ≠ .object table) → held.value ∈ Settings.written members name
  /-- a whole number is its own count, if that is given -/
  toCount_of_fits {key : String} {held : Held} {n : Int} {k : Nat} :
    FitsSigned n → held.value = .integer n → loader.toCount key held = .ok k → (k : Int) = n
  /-- what 64 signed bits do not hold may lose digits, but not its size -/
  toCount_of_above {key : String} {held : Held} {n : Int} {k : Nat} :
    (Nat.pow 2 63 : Int) ≤ n → held.value = .integer n → loader.toCount key held = .ok k →
    Nat.pow 2 63 ≤ k
  /-- a double is rounded into the range of 64 unsigned bits -/
  toCount_of_real {key : String} {held : Held} {x : Binary64} {k : Nat} :
    held.value = .real x → loader.toCount key held = .ok k → k = x.roundToCount
  /-- a table is no count -/
  toCount_of_object {key : String} {held : Held} {table : Value.Members} {k : Nat} :
    held.value = .object table → loader.toCount key held ≠ .ok k
  /-- no count is wrapped on the way to 32 bits -/
  toNat_of_narrow {key : String} {k : Nat} {d : UInt32} : loader.narrow key k = .ok d → d.toNat = k
  /-- a text is taken as it is written -/
  toText_of_string {key : String} {held : Held} {given text : String} :
    held.value = .string given → loader.toText key held = .ok text → text = given
  /-- a table is no text -/
  toText_of_object {key : String} {held : Held} {table : Value.Members} {text : String} :
    held.value = .object table → loader.toText key held ≠ .ok text

end RightSizing
