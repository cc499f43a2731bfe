import RightSizing.Toml.Scalar

/-!
# Tables of a TOML text

A TOML text builds its root table line by line, and how a table came about decides what may still be
added to it (`Origin`).  `Node` is a table under construction:

* `Node.enter`   goes down a path and changes the entries at its end.  Missing tables are made on
                 the way, and in a list of tables the last one is meant.  A dotted key may not enter
                 a table that has a header of its own, and nothing enters a finished value;
* `Node.put`     sets a key that is still free; behind dots it may be set only in a table that was
                 made by dots;
* `Node.open?`   opens a table by its header: one that is new, or known so far only by its parts;
* `Node.push`    opens the next table of a list;
* `Node.table?`  the value of a whole table.  A table whose first key is the name of a moment stands
                 for the moment in its text.
-/

namespace RightSizing.Toml

/-- how a table came about -/
inductive Origin where
  /-- by a header that names a table below it -/
  | implied
  /-- by a header of its own -/
  | header
  /-- by a dotted key -/
  | dotted
deriving DecidableEq, Repr

inductive Node where
  | leaf (value : Value)
  /-- a date or a time, without quotes -/
  | moment (text : String)
  | table (origin : Origin) (entries : List (String × Node))
  /-- a list of tables, the last one first -/
  | tables (last : List (String × Node)) (earlier : List (List (String × Node)))

namespace Node

abbrev Entries := List (String × Node)

/-- puts a node in the place of the one with the same key, or at the end -/
def replace (key : String) (node : Node) : Entries → Entries
  | [] => [(key, node)]
  | (other, old) :: rest =>
    if other = key then (key, node) :: rest else (other, old) :: replace key node rest

/-- `origin` is given to the tables made on the way; `known` is the origin of the outer table, and
the change is told the origin of the table that it is made in -/
def enter (origin : Origin) (change : Origin → Entries → Option Entries) (known : Origin) :
    List String → Entries → Option Entries
  | [], entries => change known entries
  | key :: path, entries => do
    match entries.lookup key with
    | none =>
      let inner ← enter origin change origin path []
      some (replace key (table origin inner) entries)
    | some (table known inner) =>
      if origin = .dotted ∧ known = .header then none
      let inner ← enter origin change known path inner
      some (replace key (table known inner) entries)
    | some (tables last earlier) =>
      let last ← enter origin change .header path last
      some (replace key (tables last earlier) entries)
    | some (leaf _) | some (moment _) => none

/-- sets a key at the end of a path -/
def put (path : List String) (key : String) (node : Node) (known : Origin) (entries : Entries) :
    Option Entries :=
  if !path.isEmpty ∧ known ≠ .dotted then none
  else match entries.lookup key with
    | none => some (replace key node entries)
    | some _ => none

/-- sets a dotted key in a table -/
def putDotted (path : List String) (key : String) (node : Node) (entries : Entries) :
    Option Entries :=
  enter .dotted (put path key node) .header path entries

def open? (key : String) (entries : Entries) : Option Entries :=
  match entries.lookup key with
  | none => some (replace key (table .header []) entries)
  | some (table .implied inner) => some (replace key (table .header inner) entries)
  | some _ => none

def push (key : String) (entries : Entries) : Option Entries :=
  match entries.lookup key with
  | none => some (replace key (tables [] []) entries)
  | some (tables last earlier) => some (replace key (tables [] (last :: earlier)) entries)
  | some _ => none

/-! ## Finished tables -/

/-- the key of a table that stands for a date or a time -/
def momentKey : String := "$__toml_private_datetime"

/-- the moment that a table with such a key stands for -/
def moment? : Node → Option Value
  | leaf (.string s) => (writtenMoment? s.toList).map fun text => .string (String.ofList text)
  | _ => none

mutual

def value? : Node → Option Value
  | leaf x => some x
  | moment text => some (.string text)
  | table _ entries => table? entries
  | tables last earlier => do
    let last ← table? last
    some (.array ((last :: (← lists? earlier)).reverse))

/-- the value of a whole table -/
def table? : List (String × Node) → Option Value
  | [] => some (.object [])
  | (key, node) :: rest =>
    if key = momentKey then moment? node
    else do
      let x ← value? node
      some (Value.ofMembers ((key, x) :: (← values? rest)))

def values? : List (String × Node) → Option Value.Members
  | [] => some []
  | (key, node) :: rest => do
    let x ← value? node
    some ((key, x) :: (← values? rest))

def lists? : List (List (String × Node)) → Option (List Value)
  | [] => some []
  | entries :: rest => do
    let x ← table? entries
    some (x :: (← lists? rest))

end

end Node

end RightSizing.Toml
