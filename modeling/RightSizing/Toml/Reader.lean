import RightSizing.Toml.Table

/-!
# Reading TOML

`Toml.read?` gives the root table of a TOML text as an object, or nothing if it is none.  A text is
a sequence of lines; a line sets a key, opens a table, opens the next table of a list, or is blank.

* `Toml.string?`     a string of either kind, on one line or on many
* `Toml.key?`        a dotted key
* `Toml.value?`      any value, `depth` bounding how deep arrays and inline tables nest
* `Toml.statement?`  a line as a change of the root table
-/

namespace RightSizing.Toml

def skipSpace (cs : List Char) : List Char := cs.dropWhile Text.isBlank

/-- what may stand in a comment or a string -/
def isPlain (c : Char) : Bool := c = '\t' || (0x20 ≤ c.toNat && c.toNat ≠ 0x7f)

def newline? : List Char → Option (List Char)
  | '\n' :: cs | '\r' :: '\n' :: cs => some cs
  | _ => none

def skipComment : List Char → List Char
  | '#' :: cs => cs.dropWhile isPlain
  | cs => cs

/-- the end of a line, a comment in front of it -/
def lineEnd? (cs : List Char) : Option (List Char) :=
  match skipComment (skipSpace cs) with
  | [] => some []
  | cs => newline? cs

/-- blanks, comments and line ends between the items of an array -/
def skipLines : Nat → List Char → List Char
  | 0, cs => cs
  | fuel + 1, cs =>
    let cs := skipComment (skipSpace cs)
    match newline? cs with
    | some cs => skipLines fuel cs
    | none => cs

/-! ## Strings -/

/-- the character of an escape behind its backslash, and the rest -/
def escape? : List Char → Option (Char × List Char)
  | 'u' :: cs => Json.coded? 4 cs
  | 'U' :: cs => Json.coded? 8 cs
  | '/' :: _ => none
  | c :: cs => (Json.escaped? c).map (·, cs)
  | [] => none

/-- the text of a basic string behind its quote -/
def basic? : Nat → List Char → Option (List Char × List Char)
  | 0, _ => none
  | fuel + 1, cs => do
    match cs with
    | '"' :: cs => some ([], cs)
    | '\\' :: cs =>
      let (c, cs) ← escape? cs
      let (text, cs) ← basic? fuel cs
      some (c :: text, cs)
    | c :: cs =>
      if !isPlain c then none
      let (text, cs) ← basic? fuel cs
      some (c :: text, cs)
    | [] => none

/-- the text of a literal string behind its quote -/
def literal? (cs : List Char) : Option (List Char × List Char) :=
  match cs.span fun c => isPlain c && c ≠ '\'' with
  | (text, '\'' :: cs) => some (text, cs)
  | _ => none

/-- blanks behind a backslash, up to the next visible character -/
def skipFold : List Char → List Char
  | '\r' :: '\n' :: cs | '\n' :: cs => skipFold cs
  | c :: cs => if Text.isBlank c then skipFold cs else c :: cs
  | [] => []

/-- up to two quotes may stand before the three that end a string -/
def quotesBefore (quote : Char) (cs : List Char) : Nat :=
  (cs.takeWhile (· = quote)).length

/-- the text of a string on many lines behind its quotes; a line end is a line feed -/
def multiline? (quote : Char) : Nat → List Char → Option (List Char × List Char)
  | 0, _ => none
  | fuel + 1, cs => do
    let count := quotesBefore quote cs
    if 6 ≤ count then none
    else if 3 ≤ count then some (List.replicate (count - 3) quote, cs.drop count)
    else match cs with
      | '\r' :: '\n' :: cs | '\n' :: cs =>
        let (text, cs) ← multiline? quote fuel cs
        some ('\n' :: text, cs)
      | '\\' :: cs =>
        if quote = '\'' then
          let (text, cs) ← multiline? quote fuel cs
          some ('\\' :: text, cs)
        else match newline? (skipSpace cs) with
          | some cs => multiline? quote fuel (skipFold cs)
          | none =>
            let (c, cs) ← escape? cs
            let (text, cs) ← multiline? quote fuel cs
            some (c :: text, cs)
      | c :: cs =>
        if !isPlain c then none
        let (text, cs) ← multiline? quote fuel cs
        some (c :: text, cs)
      | [] => none

/-- a line end right behind the opening quotes does not count -/
def string? (cs : List Char) : Option (List Char × List Char) :=
  let fuel := cs.length + 1
  match cs with
  | '"' :: '"' :: '"' :: cs => multiline? '"' fuel ((newline? cs).getD cs)
  | '\'' :: '\'' :: '\'' :: cs => multiline? '\'' fuel ((newline? cs).getD cs)
  | '"' :: cs => basic? fuel cs
  | '\'' :: cs => literal? cs
  | _ => none

/-! ## Keys and values -/

def simpleKey? (cs : List Char) : Option (String × List Char) :=
  match cs with
  | '"' :: cs => (basic? (cs.length + 1) cs).map fun (key, cs) => (String.ofList key, cs)
  | '\'' :: cs => (literal? cs).map fun (key, cs) => (String.ofList key, cs)
  | cs => match cs.span Text.isWordChar with
    | ([], _) => none
    | (key, cs) => some (String.ofList key, cs)

/-- the parts of a dotted key, the last one apart -/
def dottedKey? : Nat → List Char → Option (List String × String × List Char)
  | 0, _ => none
  | fuel + 1, cs => do
    let (first, cs) ← simpleKey? (skipSpace cs)
    match skipSpace cs with
    | '.' :: cs =>
      let (path, last, cs) ← dottedKey? fuel cs
      some (first :: path, last, cs)
    | cs => some ([], first, cs)

/-- how many parts a key has at most, and how many arrays and inline tables may stand inside each
other -/
def depthLimit : Nat := 79

def key? (cs : List Char) : Option (List String × String × List Char) := do
  let (path, last, cs) ← dottedKey? (cs.length + 1) cs
  if path.length < depthLimit then some (path, last, cs) else none

def isScalarChar (c : Char) : Bool :=
  Text.isWordChar c || c = '+' || c = '.' || c = ':'

/-- a date and a time may be parted by a blank -/
def scalarRun (cs : List Char) : List Char × List Char :=
  let (run, rest) := cs.span isScalarChar
  match rest with
  | ' ' :: a :: b :: ':' :: more =>
    if run.length = 10 ∧ (date? run).isSome ∧ a.isDigit ∧ b.isDigit then
      let (time, rest) := (a :: b :: ':' :: more).span isScalarChar
      (run ++ ' ' :: time, rest)
    else (run, rest)
  | _ => (run, rest)

/-- the items of an array behind its bracket; a comma may stand behind the last -/
def items? (item : List Char → Option (Value × List Char)) :
    Nat → List Char → Option (List Value × List Char)
  | 0, _ => none
  | fuel + 1, cs => do
    match skipLines (cs.length + 1) cs with
    | ']' :: cs => some ([], cs)
    | cs =>
      let (x, cs) ← item cs
      match skipLines (cs.length + 1) cs with
      | ',' :: cs =>
        let (xs, cs) ← items? item fuel cs
        some (x :: xs, cs)
      | ']' :: cs => some ([x], cs)
      | _ => none

/-- the node of a value that starts here; a text without quotes is a moment -/
def nodeOf (cs : List Char) : Value → Node
  | .string s => if cs.head?.any fun c => c = '"' ∨ c = '\'' then .leaf (.string s) else .moment s
  | x => .leaf x

/-- the pairs of an inline table behind its brace, one at least -/
def pairs? (item : List Char → Option (Value × List Char)) :
    Nat → Node.Entries → List Char → Option (Node.Entries × List Char)
  | 0, _, _ => none
  | fuel + 1, entries, cs => do
    let (path, key, cs) ← key? cs
    let '=' :: cs := cs | none
    let start := skipSpace cs
    let (x, cs) ← item start
    let entries ← Node.putDotted path key (nodeOf start x) entries
    match skipSpace cs with
    | ',' :: cs => pairs? item fuel entries cs
    | '}' :: cs => some (entries, cs)
    | _ => none

def value? : Nat → List Char → Option (Value × List Char)
  | depth, cs =>
    match cs, depth with
    | '"' :: _, _ | '\'' :: _, _ => (string? cs).map fun (text, cs) =>
      (.string (String.ofList text), cs)
    | '[' :: cs, depth + 1 =>
      (items? (value? depth) (cs.length + 1) cs).map fun (xs, cs) => (.array xs, cs)
    | '{' :: cs, depth + 1 =>
      match skipSpace cs with
      | '}' :: cs => some (.object [], cs)
      | cs => do
        let (entries, cs) ← pairs? (value? depth) (cs.length + 1) [] cs
        some (← Node.table? entries, cs)
    | cs, _ =>
      let (run, cs) := scalarRun cs
      (scalar? run).map (·, cs)

/-! ## Lines -/

/-- the path of the table that the lines belong to, and the root table -/
structure Progress where
  current : List String
  root : Node.Entries

/-- a line that is not blank, and the rest of its characters -/
def statement? (state : Progress) (cs : List Char) : Option (Progress × List Char) := do
  match cs with
  | '[' :: '[' :: cs =>
    let (path, key, cs) ← key? cs
    let ']' :: ']' :: cs := cs | none
    let root ← Node.enter .implied (fun _ => Node.push key) .header path state.root
    some (⟨path ++ [key], root⟩, cs)
  | '[' :: cs =>
    let (path, key, cs) ← key? cs
    let ']' :: cs := cs | none
    let root ← Node.enter .implied (fun _ => Node.open? key) .header path state.root
    some (⟨path ++ [key], root⟩, cs)
  | cs =>
    let (path, key, cs) ← key? cs
    let '=' :: cs := cs | none
    let start := skipSpace cs
    let (x, cs) ← value? depthLimit start
    let root ← Node.enter .implied (fun _ => Node.putDotted path key (nodeOf start x)) .header
      state.current state.root
    some (⟨state.current, root⟩, cs)

def lines? : Nat → Progress → List Char → Option Progress
  | 0, _, _ => none
  | fuel + 1, state, cs => do
    match lineEnd? cs with
    | some [] => some state
    | some cs => lines? fuel state cs
    | none =>
      let (state, cs) ← statement? state (skipSpace cs)
      match ← lineEnd? cs with
      | [] => some state
      | cs => lines? fuel state cs

/-- the root table of a whole text, a byte order mark in front of it -/
def read? (s : String) : Option Value :=
  let cs := match s.toList with
    | '\ufeff' :: cs => cs
    | cs => cs
  (lines? (cs.length + 1) ⟨[], []⟩ cs).bind fun state => Node.table? state.root

end RightSizing.Toml
