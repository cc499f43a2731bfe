import RightSizing.Record.Codec

/-!
# Layouts: the members of a record, described once

A `Layout ρ α` lists members of a record type `ρ` in their declared order, together with the
function that makes an `α` of their contents; the layout of a whole record is a `Layout ρ ρ`.
Everything about the outer form of a record follows from this one description:

* `Layout.ofMembers`  reads an object.  A member is found by its name, so what the layout does not
                      name never matters.  Of several faults, a member that cannot be read is
                      reported before one that is missing; among the former the least name counts,
                      among the latter the declared order (`Lapse.first`);
* `Layout.ofItems`    reads an array by position and hands back the items it did not use;
* `Layout.toMembers`  writes the members, leaving out what a member says may be left out;
* `Layout.codec`      puts them together, with the errors of the outer form and the members of the
                      written object in the order of their names.
-/

namespace RightSizing

/-- a member of a record type `ρ` with content `α` -/
structure Member (ρ α : Type) where
  name : String
  content : Codec α
  get : ρ → α
  /-- what an object without the member means; a required member has none -/
  absent : Option α
  /-- what an array that ends before the member means -/
  beyond : Option α
  /-- contents that are not written -/
  omitted : α → Bool

namespace Member

/-- has to be there in either form, and is always written -/
def required (name : String) (content : Codec α) (get : ρ → α) : Member ρ α :=
  ⟨name, content, get, none, none, fun _ => false⟩

/-- may be missing, also at the end of an array -/
def defaulted (name : String) (content : Codec α) (get : ρ → α) (default : α) : Member ρ α :=
  ⟨name, content, get, some default, some default, fun _ => false⟩

/-- may be missing from an object, but an array has to hold it -/
def optional (name : String) (content : Codec α) (get : ρ → Option α) : Member ρ (Option α) :=
  ⟨name, content.optional, get, some none, none, fun _ => false⟩

/-- is not written when `skip` says so -/
def skipping (m : Member ρ α) (skip : α → Bool) : Member ρ α := { m with omitted := skip }

end Member

/-- what keeps an object from being read: a bad member, or a missing one -/
inductive Lapse where
  | bad (name : String) (error : DecodeError)
  | missing (name : String)
deriving DecidableEq, Repr

namespace Lapse

/-- the lapse that is reported, of two in declared order -/
def first : Lapse → Lapse → Lapse
  | bad m e, bad n f => if n < m then bad n f else bad m e
  | bad m e, missing _ => bad m e
  | missing _, bad n f => bad n f
  | missing m, missing _ => missing m

def error : Lapse → DecodeError
  | bad _ e => e
  | missing name => .missingField name

end Lapse

inductive Layout (ρ : Type) : Type → Type 1 where
  | start {α : Type} (make : α) : Layout ρ α
  | member {α β : Type} (before : Layout ρ (β → α)) (m : Member ρ β) : Layout ρ α

namespace Member

/-- reads the member of an object -/
def ofMembers (m : Member ρ α) (members : Value.Members) : Except Lapse α :=
  match Value.find? members m.name, m.absent with
  | some x, _ => (m.content.read x).mapError (.bad m.name)
  | none, some a => .ok a
  | none, none => .error (.missing m.name)

/-- reads the member from the front of what is left of an array -/
def ofItems (m : Member ρ α) (tooShort : DecodeError) :
    List Value → Except DecodeError (α × List Value)
  | x :: xs => (m.content.read x).map (·, xs)
  | [] => match m.beyond with
    | some a => .ok (a, [])
    | none => .error tooShort

def toMembers (m : Member ρ α) (r : ρ) : Value.Members :=
  if m.omitted (m.get r) then [] else [(m.name, m.content.write (m.get r))]

end Member

namespace Layout

def size : Layout ρ α → Nat
  | start _ => 0
  | member before _ => before.size + 1

/-- the names of the members in declared order -/
def names : Layout ρ α → List String
  | start _ => []
  | member before m => before.names ++ [m.name]

def ofMembers (members : Value.Members) : Layout ρ α → Except Lapse α
  | start make => .ok make
  | member before m =>
    match before.ofMembers members, m.ofMembers members with
    | .ok f, .ok a => .ok (f a)
    | .ok _, .error lapse => .error lapse
    | .error lapse, .ok _ => .error lapse
    | .error lapse, .error other => .error (lapse.first other)

/-- an array that ends too early has as many items as members before the one that is missing -/
def ofItems (wanted : String) (items : List Value) :
    Layout ρ α → Except DecodeError (α × List Value)
  | start make => .ok (make, items)
  | member before m =>
    match before.ofItems wanted items with
    | .error e => .error e
    | .ok (f, rest) => (m.ofItems (.invalidLength before.size wanted) rest).map fun (a, rest) =>
      (f a, rest)

def toMembers (r : ρ) : Layout ρ α → Value.Members
  | start _ => []
  | member before m => before.toMembers r ++ m.toMembers r

def elements : Nat → String
  | 1 => "1 element"
  | n => intText n ++ " elements"

/-- the codec of a record with a title -/
def codec (title : String) (layout : Layout ρ ρ) : Codec ρ where
  read
    | .object members => (layout.ofMembers members).mapError Lapse.error
    | .array items =>
      match layout.ofItems ("struct " ++ title ++ " with " ++ elements layout.size) items with
      | .error e => .error e
      | .ok (r, []) => .ok r
      | .ok (_, _ :: _) => .error (.invalidLength items.length "fewer elements in array")
    | x => .error (Codec.mistyped x ("struct " ++ title))
  write r := Value.ofMembers (layout.toMembers r)

end Layout

end RightSizing
