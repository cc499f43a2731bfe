import RightSizing.Yaml.Cursor
import RightSizing.Yaml.Token

/-!
# The state of a scan

A `Scan` is a place in a YAML text with what was found so far.

Two things are known only later.  Whether a node is the key of a mapping is told by the colon behind
it; so the place of each node that may be a key is kept as a `Candidate`, one for each level of flow
style, and its tokens are put in there when the colon comes.  And in block style the end of a
collection is told by the column of what follows; so the columns of the open collections are kept
(`Indent`).  What stands behind a key or a dash lies one column deeper than the collection, whether
or not another collection starts there (`Scan.deepen`).

In a list in flow style a pair is a mapping of its own (`Scan.pairs`).

None of this moves the scan to another place.
-/

namespace RightSizing.Yaml

/-- a node that may turn out to be a key -/
structure Candidate where
  possible : Bool
  /-- nothing else can stand at its place -/
  required : Bool
  /-- how many tokens are in front of it -/
  position : Nat
  start : Cursor

/-- an open indentation: the column around it, and whether a block collection made it -/
structure Indent where
  outer : Int
  isBlock : Bool

structure Scan where
  cursor : Cursor
  /-- the last one first -/
  tokens : List Token
  /-- whether a key may start here -/
  keyAllowed : Bool
  /-- the candidates, the innermost one first -/
  candidates : List Candidate
  /-- the column of the innermost open indentation -/
  column : Int
  /-- the open indentations, the innermost one first -/
  indents : List Indent
  /-- how many collections in flow style are open -/
  flowDepth : Nat
  /-- a mapping in flow style has begun, by its brace or by a question mark -/
  inFlowMapping : Bool
  /-- for each open list in flow style whether it is inside of a pair without a sign -/
  pairs : List Bool
  /-- the place behind a scalar in quotes or a collection, where a colon needs no blank -/
  adjacentAt : Nat

namespace Scan

def start (cs : List Char) : Scan :=
  let c := Cursor.ofList cs
  ⟨c, [], true, [⟨false, false, 0, c⟩], -1, [], 0, false, [], 0⟩

def inFlow (s : Scan) : Bool := s.flowDepth ≠ 0

def push (token : Token) (s : Scan) : Scan := { s with tokens := token :: s.tokens }

/-- puts a token behind the first tokens of a text -/
def pushAt (position : Nat) (token : Token) (s : Scan) : Scan :=
  let behind := s.tokens.length - position
  { s with tokens := s.tokens.take behind ++ token :: s.tokens.drop behind }

def moveTo (c : Cursor) (s : Scan) : Scan := { s with cursor := c }

def allowKey (allowed : Bool) (s : Scan) : Scan := { s with keyAllowed := allowed }

variable {s s' : Scan}

/-! ## Candidates -/

/-- what starts here may be a key -/
def markCandidate (s : Scan) : Scan :=
  if s.keyAllowed then
    let required := !s.inFlow && s.column = s.cursor.column && s.indents.head?.any (·.isBlock)
    let candidate : Candidate := ⟨true, required, s.tokens.length, s.cursor⟩
    { s with candidates := candidate :: s.candidates.drop 1 }
  else s

theorem place_markCandidate (s : Scan) :
    s.markCandidate.cursor = s.cursor ∧ s.markCandidate.inFlow = s.inFlow := by
  unfold markCandidate
  split <;> exact ⟨rfl, rfl⟩

/-- what was marked is no key -/
def dropCandidate? (s : Scan) : Option Scan :=
  match s.candidates with
  | [] => some s
  | candidate :: outer =>
    if candidate.possible && candidate.required then none
    else some { s with candidates := { candidate with possible := false } :: outer }

theorem cursor_of_dropCandidate? (h : s.dropCandidate? = some s') : s'.cursor = s.cursor := by
  unfold dropCandidate? at h
  split at h
  · cases h
    rfl
  · obtain ⟨-, h⟩ := Option.ite_none_left_eq_some.mp h
    cases h
    rfl

/-- in block style a key has one line of 1024 characters at most -/
def isStale (c : Cursor) (candidate : Candidate) : Bool :=
  candidate.possible &&
    (candidate.start.line < c.line || candidate.start.index + 1024 < c.index)

def dropStale? (s : Scan) : Option Scan :=
  if s.inFlow then some s
  else if s.candidates.any fun k => isStale s.cursor k && k.required then none
  else
    let kept := s.candidates.map fun k => { k with possible := k.possible && !isStale s.cursor k }
    some { s with candidates := kept }

theorem cursor_of_dropStale? (h : s.dropStale? = some s') : s'.cursor = s.cursor := by
  unfold dropStale? at h
  split at h
  · cases h
    rfl
  · obtain ⟨-, h⟩ := Option.ite_none_left_eq_some.mp h
    cases h
    rfl

/-! ## Indentation -/

/-- closes the indentations that reach deeper than a column -/
def unwind (column : Int) (s : Scan) : Scan :=
  if s.inFlow then s else go s.indents s
where
  go : List Indent → Scan → Scan
    | [], s => s
    | indent :: outer, s =>
      if column < s.column then
        let s := { s with column := indent.outer, indents := outer }
        go outer (if indent.isBlock then s.push .blockEnd else s)
      else s

theorem unwind.cursor_go (column : Int) (indents : List Indent) (s : Scan) :
    (go column indents s).cursor = s.cursor := by
  induction indents generalizing s with
  | nil => rfl
  | cons indent outer ih =>
    rw [go]
    split
    · rw [ih]
      split <;> rfl
    · rfl

theorem cursor_unwind (column : Int) (s : Scan) : (s.unwind column).cursor = s.cursor := by
  unfold unwind
  split
  · rfl
  · exact unwind.cursor_go column _ s

/-- closes the indentations that no collection has made -/
def unwindLoose (s : Scan) : Scan := go s.indents s
where
  go : List Indent → Scan → Scan
    | [], s => s
    | indent :: outer, s =>
      if indent.isBlock then s
      else go outer { s with column := indent.outer, indents := outer }

theorem unwindLoose.place_go (indents : List Indent) (s : Scan) :
    (go indents s).cursor = s.cursor ∧ (go indents s).inFlow = s.inFlow := by
  induction indents generalizing s with
  | nil => exact ⟨rfl, rfl⟩
  | cons indent outer ih =>
    rw [go]
    split
    · exact ⟨rfl, rfl⟩
    · exact ih _

theorem place_unwindLoose (s : Scan) :
    s.unwindLoose.cursor = s.cursor ∧ s.unwindLoose.inFlow = s.inFlow :=
  unwindLoose.place_go _ s

/-- takes back the innermost indentation if no collection has made it and it is not deeper -/
def replaceLoose (column : Int) (s : Scan) : Scan :=
  match s.indents with
  | indent :: outer =>
    if s.column ≤ column && !indent.isBlock then { s with column := indent.outer, indents := outer }
    else s
  | [] => s

/-- opens a block collection at a column, if it is deeper than the others -/
def openBlock (column : Int) (position : Nat) (token : Token) (s : Scan) : Scan :=
  if s.inFlow then s
  else
    let s := s.replaceLoose column
    if s.column < column then
      let s := s.pushAt position token
      { s with column := column, indents := ⟨s.column, true⟩ :: s.indents }
    else s

theorem cursor_replaceLoose (column : Int) (s : Scan) :
    (s.replaceLoose column).cursor = s.cursor := by
  unfold replaceLoose
  split
  · split <;> rfl
  · rfl

theorem cursor_openBlock (column : Int) (position : Nat) (token : Token) (s : Scan) :
    (s.openBlock column position token).cursor = s.cursor := by
  unfold openBlock
  split
  · rfl
  · dsimp only
    split <;> exact cursor_replaceLoose column s

/-- what follows lies one column deeper than the block collection -/
def deepen (s : Scan) : Scan :=
  if !s.inFlow && s.indents.head?.any (·.isBlock) then
    { s with column := s.column + 1, indents := ⟨s.column, false⟩ :: s.indents }
  else s

theorem cursor_deepen (s : Scan) : s.deepen.cursor = s.cursor := by
  unfold deepen
  split <;> rfl

end Scan

end RightSizing.Yaml
