import RightSizing.Yaml.Cursor

/-!
# Block scalars

`Yaml.block?` reads a scalar behind its bar or arrow.  Its lines stand deeper than the column
`outer`, as deep as the header says or as the first of them; behind a bar they are kept as they are,
behind an arrow the break between two lines of text is a blank.  What becomes of the breaks at the
end is said in the header (`Chomping`).
-/

namespace RightSizing.Yaml

inductive Chomping where
  /-- one break is kept -/
  | clip
  | strip
  | keep
deriving DecidableEq

structure BlockHeader where
  chomping : Chomping
  /-- how much deeper than its parent the text stands, if that is written -/
  depth? : Option Nat

def chomping? : Char → Option Chomping
  | '+' => some .keep
  | '-' => some .strip
  | _ => none

/-- the header, and how many characters it has; a depth of zero is refused -/
def blockHeader? (cs : List Char) : Option (BlockHeader × Nat) :=
  let digit? := fun (c : Char) => if c.isDigit then some (c.toNat - '0'.toNat) else none
  let sign? := cs.head?.bind chomping?
  let depth? := cs.head?.bind digit?
  let header : BlockHeader × Nat := match sign?, depth? with
    | some sign, _ => match (cs.drop 1).head?.bind digit? with
      | some depth => (⟨sign, some depth⟩, 2)
      | none => (⟨sign, none⟩, 1)
    | none, some depth => match (cs.drop 1).head?.bind chomping? with
      | some sign => (⟨sign, some depth⟩, 2)
      | none => (⟨.clip, some depth⟩, 1)
    | none, none => (⟨.clip, none⟩, 0)
  if header.1.depth? = some 0 then none else some header

/-! ## The lines -/

def leadingSpaces (c : Cursor) : Nat := (c.rest.takeWhile (· = ' ')).length

/-- goes over spaces, up to a column -/
def spacesTo (depth : Nat) (c : Cursor) : Cursor :=
  c.blanks (min (leadingSpaces c) (depth - c.column))

/-- goes over all spaces that start here -/
def overSpaces (c : Cursor) : Cursor := c.blanks (leadingSpaces c)

theorem length_spacesTo_le (depth : Nat) (c : Cursor) :
    (spacesTo depth c).rest.length ≤ c.rest.length := Cursor.length_blanks_le _ c

theorem length_overSpaces_le (c : Cursor) : (overSpaces c).rest.length ≤ c.rest.length :=
  Cursor.length_blanks_le _ c

/-- goes over empty lines up to a column, and counts them -/
def toDepth (depth : Nat) (c : Cursor) : Nat × Cursor :=
  if _h : (spacesTo depth c).atBreak then
    let (count, last) := toDepth depth (spacesTo depth c).newline
    (count + 1, last)
  else (0, spacesTo depth c)
termination_by c.rest.length
decreasing_by exact Nat.lt_of_lt_of_le (Cursor.length_newline_lt _h) (length_spacesTo_le _ c)

/-- goes over empty lines up to the first text, and counts them; `deepest` is the greatest column
that was reached -/
def toText (deepest : Nat) (c : Cursor) : Nat × Nat × Cursor :=
  let deepest := max deepest (overSpaces c).column
  if _h : (overSpaces c).atBreak then
    let (deepest, count, last) := toText deepest (overSpaces c).newline
    (deepest, count + 1, last)
  else (deepest, 0, overSpaces c)
termination_by c.rest.length
decreasing_by exact Nat.lt_of_lt_of_le (Cursor.length_newline_lt _h) (length_overSpaces_le c)

theorem length_toDepth_le (depth : Nat) (c : Cursor) :
    (toDepth depth c).2.rest.length ≤ c.rest.length := by
  fun_induction toDepth depth c with
  | case1 c hbreak count last heq ih =>
    rw [heq] at ih
    have hspaces := length_spacesTo_le depth c
    have hnewline := Cursor.length_newline_lt hbreak
    exact Nat.le_trans ih (Nat.le_trans (Nat.le_of_lt hnewline) hspaces)
  | case2 c hbreak => exact length_spacesTo_le depth c

theorem length_toText_le (deepest : Nat) (c : Cursor) :
    (toText deepest c).2.2.rest.length ≤ c.rest.length := by
  fun_induction toText deepest c with
  | case1 deepest c deepest' hbreak deepest'' count last heq ih =>
    rw [heq] at ih
    have hspaces := length_overSpaces_le c
    have hnewline := Cursor.length_newline_lt hbreak
    exact Nat.le_trans ih (Nat.le_trans (Nat.le_of_lt hnewline) hspaces)
  | case2 deepest c deepest' hbreak => exact length_overSpaces_le c

/-- what the lines of a block scalar make so far -/
structure BlockText where
  text : List Char
  /-- a break behind the text -/
  broken : Bool
  /-- empty lines behind the break -/
  emptyLines : Nat
  /-- the last line of text starts with a blank -/
  blank : Bool

/-- the breaks in front of the next line of text -/
def BlockText.join (b : BlockText) (folded blank : Bool) : List Char :=
  let emptyLines := List.replicate b.emptyLines '\n'
  if folded && b.broken && !b.blank && !blank then
    if b.emptyLines = 0 then [' '] else emptyLines
  else if b.broken then '\n' :: emptyLines
  else emptyLines

/-- the characters of the line that starts here -/
def lineText (c : Cursor) : List Char := c.rest.takeWhile fun ch => !isBreak ch

def overText (c : Cursor) : Cursor := c.blanks (lineText c).length

theorem length_overText_le (c : Cursor) : (overText c).rest.length ≤ c.rest.length :=
  Cursor.length_blanks_le _ c

/-- a line ends with a break, or the text does -/
theorem atBreak_overText {c : Cursor} (h : ¬ (overText c).atEnd = true) :
    (overText c).atBreak = true := by
  change ¬ (c.rest.drop (lineText c).length).isEmpty = true at h
  show (c.rest.drop (lineText c).length).head?.any isBreak = true
  cases hdrop : c.rest.drop (lineText c).length with
  | nil =>
    rw [hdrop] at h
    exact absurd rfl h
  | cons ch rest => exact Bool.not_eq_eq_eq_not.mp (Cursor.stop_of_takeWhile hdrop)

theorem length_lt_of_line {depth : Nat} {c : Cursor} (h : ¬ (overText c).atEnd = true) :
    (toDepth depth (overText c).newline).2.rest.length < c.rest.length := by
  calc (toDepth depth (overText c).newline).2.rest.length
      ≤ (overText c).newline.rest.length := length_toDepth_le _ _
    _ < (overText c).rest.length := Cursor.length_newline_lt (atBreak_overText h)
    _ ≤ c.rest.length := length_overText_le c

def blockLines (folded : Bool) (depth : Nat) (b : BlockText) (c : Cursor) : BlockText × Cursor :=
  if c.column = depth && !c.atEnd then
    let blank := c.rest.head?.any Text.isBlank
    let text := b.text ++ b.join folded blank ++ lineText c
    if _h : (overText c).atEnd then (⟨text, false, 0, blank⟩, overText c)
    else
      let emptyLines := (toDepth depth (overText c).newline).1
      blockLines folded depth ⟨text, true, emptyLines, blank⟩
        (toDepth depth (overText c).newline).2
  else (b, c)
termination_by c.rest.length
decreasing_by exact length_lt_of_line _h

theorem length_blockLines_le (folded : Bool) (depth : Nat) (b : BlockText) (c : Cursor) :
    (blockLines folded depth b c).2.rest.length ≤ c.rest.length := by
  fun_induction blockLines folded depth b c with
  | case1 b c hline blank text hend => exact length_overText_le c
  | case2 b c hline blank text hend emptyLines ih =>
    exact Nat.le_trans ih (Nat.le_of_lt (length_lt_of_line hend))
  | case3 b c hline => exact Nat.le_refl _

/-! ## The scalar -/

/-- the breaks at the end of a text; a last line without one gets it, if it is deep enough -/
def BlockText.tail (b : BlockText) (chomping : Chomping) (depth : Nat) (last : Cursor) :
    List Char :=
  let emptyLines := if chomping = .keep then List.replicate b.emptyLines '\n' else []
  if chomping = .strip then []
  else (if b.broken then ['\n'] else []) ++
    (if last.atEnd && max depth 1 ≤ last.column then ['\n'] else []) ++ emptyLines

/-- the text of a scalar without a line of text, `broken` telling that its header has a break -/
def hollowText (chomping : Chomping) (broken : Bool) (emptyLines : Nat) : List Char :=
  if chomping = .strip || !broken then []
  else if chomping = .keep && emptyLines ≠ 0 then List.replicate emptyLines '\n'
  else ['\n']

/-- the column of the text, the empty lines in front of it, and the place where it starts -/
def blockStart (header : BlockHeader) (outer : Int) (c : Cursor) : Nat × Nat × Cursor :=
  match header.depth? with
  | some n =>
    let depth := (max outer 0).toNat + n
    (depth, toDepth depth c)
  | none =>
    let (deepest, count, first) := toText 0 c
    (max deepest (outer + 1).toNat, count, first)

def block? (folded : Bool) (outer : Int) (c : Cursor) : Option (List Char × Cursor) := do
  let (header, length) ← blockHeader? c.rest
  let headerEnd ← (c.upTo (c.rest.drop length)).lineEnd?
  if !headerEnd.atLineEnd then none
  let start := headerEnd.newline
  if start.rest.head? = some '\t' then none
  let (depth, emptyLines, first) := blockStart header outer start
  if first.atEnd then
    return (hollowText header.chomping headerEnd.atBreak emptyLines, first)
  if first.column < depth && outer < first.column then none
  let (b, last) := blockLines folded depth ⟨[], false, emptyLines, false⟩ first
  some (b.text ++ b.tail header.chomping depth last, last)

theorem length_blockStart_le (header : BlockHeader) (outer : Int) (c : Cursor) :
    (blockStart header outer c).2.2.rest.length ≤ c.rest.length := by
  unfold blockStart
  split
  · exact length_toDepth_le _ c
  · exact length_toText_le 0 c

theorem length_le_of_block? {folded : Bool} {outer : Int} {text : List Char} {c last : Cursor}
    (h : block? folded outer c = some (text, last)) : last.rest.length ≤ c.rest.length := by
  unfold block? at h
  simp only [Option.bind_eq_bind, Option.bind_eq_some_iff, Option.bind_none,
    Option.ite_none_left_eq_some] at h
  obtain ⟨⟨header, length⟩, -, headerEnd, hend, -, -, h⟩ := h
  have hheader : headerEnd.rest.length ≤ c.rest.length :=
    Nat.le_trans (Cursor.length_le_of_lineEnd? hend) (Cursor.length_upTo_le _ c)
  have hfirst : (blockStart header outer headerEnd.newline).2.2.rest.length ≤ c.rest.length := by
    calc (blockStart header outer headerEnd.newline).2.2.rest.length
        ≤ headerEnd.newline.rest.length := length_blockStart_le _ _ _
      _ ≤ headerEnd.rest.length := Cursor.length_newline_le _
      _ ≤ c.rest.length := hheader
  split at h
  · cases h
    exact hfirst
  · obtain ⟨-, h⟩ := Option.ite_none_left_eq_some.mp h
    cases h
    exact Nat.le_trans (length_blockLines_le _ _ _ _) hfirst

end RightSizing.Yaml
