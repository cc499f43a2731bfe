import RightSizing.Text.Character

/-!
# A place in a YAML text

A `Cursor` is what is left of a text together with the line and the column where it starts.  It goes
on over characters of one line (`Cursor.skip`, `Cursor.blanks`) or over a line break
(`Cursor.newline`), and it remembers whether only blanks stand in front of it on its line.

* `Cursor.lineEnd?`   goes over blanks and a comment, which a blank has to set apart
* `Cursor.toToken?`   goes to the next visible character; a tab may not indent it
-/

namespace RightSizing.Yaml

def isBreak (c : Char) : Bool := c = '\n' || c = '\r'

def isGap (c : Char) : Bool := Text.isBlank c || isBreak c

/-- the signs of lists and mappings in flow style -/
def isFlow (c : Char) : Bool := c = ',' || c = '[' || c = ']' || c = '{' || c = '}'

/-- whether a gap starts here, or the text ends -/
def gapFollows (cs : List Char) : Bool := cs.head?.all isGap

/-- whether a sign of flow style starts here -/
def flowFollows (cs : List Char) : Bool := cs.head?.any isFlow

/-- the sign of the start or the end of a document -/
def isMarker : List Char → Bool
  | '-' :: '-' :: '-' :: cs | '.' :: '.' :: '.' :: cs => gapFollows cs
  | _ => false

/-! ## Cursors -/

structure Cursor where
  rest : List Char
  /-- how many characters were left behind -/
  index : Nat
  line : Nat
  column : Nat
  /-- nothing but blanks stands in front of this place on its line -/
  leading : Bool

namespace Cursor

def ofList (cs : List Char) : Cursor := ⟨cs, 0, 0, 0, true⟩

/-- goes over some blanks -/
def blanks (n : Nat) (c : Cursor) : Cursor :=
  { c with rest := c.rest.drop n, index := c.index + n, column := c.column + n }

/-- goes over some characters, one of which is visible -/
def skip (n : Nat) (c : Cursor) : Cursor := { c.blanks n with leading := false }

/-- goes over a line break, if there is one -/
def newline (c : Cursor) : Cursor :=
  match c.rest with
  | '\r' :: '\n' :: cs => ⟨cs, c.index + 2, c.line + 1, 0, true⟩
  | '\n' :: cs | '\r' :: cs => ⟨cs, c.index + 1, c.line + 1, 0, true⟩
  | _ => c

/-- goes to the place where the given characters are left -/
def upTo (rest : List Char) (c : Cursor) : Cursor := c.skip (c.rest.length - rest.length)

def atEnd (c : Cursor) : Bool := c.rest.isEmpty

def atBreak (c : Cursor) : Bool := c.rest.head?.any isBreak

/-- a line break or the end of the text -/
def atLineEnd (c : Cursor) : Bool := c.rest.head?.all isBreak

/-- the sign of the start or the end of a document, in the first column -/
def atMarker (c : Cursor) : Bool := c.column = 0 && isMarker c.rest

section
variable {c next : Cursor}

theorem length_blanks (n : Nat) (c : Cursor) :
    (c.blanks n).rest.length = c.rest.length - n := List.length_drop

theorem length_skip (n : Nat) (c : Cursor) : (c.skip n).rest.length = c.rest.length - n :=
  List.length_drop

theorem length_blanks_le (n : Nat) (c : Cursor) : (c.blanks n).rest.length ≤ c.rest.length := by
  rw [length_blanks]
  exact Nat.sub_le _ _

theorem length_skip_le (n : Nat) (c : Cursor) : (c.skip n).rest.length ≤ c.rest.length :=
  length_blanks_le n c

theorem length_upTo_le (rest : List Char) (c : Cursor) :
    (c.upTo rest).rest.length ≤ c.rest.length := length_skip_le _ c

theorem rest_upTo {rest : List Char} (h : rest <:+ c.rest) : (c.upTo rest).rest = rest := by
  obtain ⟨front, hsplit⟩ := h
  show c.rest.drop (c.rest.length - rest.length) = rest
  rw [← hsplit, List.length_append, Nat.add_sub_cancel, List.drop_left]

/-- a line break takes a character at least -/
theorem length_newline_lt (h : c.atBreak = true) : c.newline.rest.length < c.rest.length := by
  unfold newline
  split
  · next found =>
    rw [found]
    exact Nat.lt_succ_of_lt (Nat.lt_succ_self _)
  · next found =>
    rw [found]
    exact Nat.lt_succ_self _
  · next found =>
    rw [found]
    exact Nat.lt_succ_self _
  · next notFeed notReturn =>
    unfold atBreak at h
    cases found : c.rest with
    | nil =>
      rw [found] at h
      cases h
    | cons ch cs =>
      rw [found] at h
      rcases Bool.or_eq_true_iff.mp h with heq | heq
      · rw [of_decide_eq_true heq] at found
        exact (notFeed _ found).elim
      · rw [of_decide_eq_true heq] at found
        exact (notReturn _ found).elim

theorem length_newline_le (c : Cursor) : c.newline.rest.length ≤ c.rest.length := by
  by_cases h : c.atBreak = true
  · exact Nat.le_of_lt (length_newline_lt h)
  · unfold newline
    split
    · next found => exact absurd (by rw [atBreak, found]; rfl) h
    · next found => exact absurd (by rw [atBreak, found]; rfl) h
    · next found => exact absurd (by rw [atBreak, found]; rfl) h
    · exact Nat.le_refl _

end

/-! ## Blanks and comments -/

/-- the blanks that start here -/
def leadingBlanks (c : Cursor) : List Char := c.rest.takeWhile Text.isBlank

/-- goes over them -/
def overBlanks (c : Cursor) : Cursor := c.blanks c.leadingBlanks.length

/-- goes over a comment, if there is one -/
def comment (c : Cursor) : Cursor :=
  match c.rest with
  | '#' :: cs => c.skip (1 + (cs.takeWhile fun ch => !isBreak ch).length)
  | _ => c

/-- goes over blanks and a comment behind them -/
def restOfLine (c : Cursor) : Cursor := c.overBlanks.comment

/-- goes over blanks and a comment set apart by them -/
def lineEnd? (c : Cursor) : Option Cursor :=
  if c.rest.head? = some '#' then none else some c.restOfLine

/-- goes over blanks, of which a tab may stand at or behind the column `floor` only, or in a line
that is empty otherwise -/
def indentation? (floor : Int) (c : Cursor) : Option Cursor :=
  let indenting := c.leadingBlanks.take (floor - c.column).toNat
  if c.leading && indenting.contains '\t' then
    let c := c.restOfLine
    if c.atLineEnd then some c else none
  else some c.overBlanks

section
variable {c next : Cursor} {floor : Int}

theorem length_overBlanks (c : Cursor) :
    c.overBlanks.rest.length = c.rest.length - c.leadingBlanks.length := length_blanks _ c

theorem length_comment_le (c : Cursor) : c.comment.rest.length ≤ c.rest.length := by
  unfold comment
  split
  · exact length_skip_le _ c
  · exact Nat.le_refl _

theorem length_restOfLine_le (c : Cursor) :
    c.restOfLine.rest.length ≤ c.rest.length - c.leadingBlanks.length := by
  rw [← length_overBlanks]
  exact length_comment_le _

theorem length_le_of_lineEnd? (h : c.lineEnd? = some next) :
    next.rest.length ≤ c.rest.length := by
  obtain ⟨-, heq⟩ := Option.ite_none_left_eq_some.mp h
  cases heq
  exact Nat.le_trans (length_restOfLine_le c) (Nat.sub_le _ _)

theorem indentation?_cases (h : c.indentation? floor = some next) :
    next = c.overBlanks ∨ next = c.restOfLine ∧ next.atLineEnd = true := by
  unfold indentation? at h
  dsimp only at h
  split at h
  · obtain ⟨hend, h⟩ := Option.ite_none_right_eq_some.mp h
    cases h
    exact .inr ⟨rfl, hend⟩
  · cases h
    exact .inl rfl

theorem length_le_of_indentation? (h : c.indentation? floor = some next) :
    next.rest.length ≤ c.rest.length - c.leadingBlanks.length := by
  rcases indentation?_cases h with rfl | ⟨rfl, -⟩
  · exact Nat.le_of_eq (length_overBlanks c)
  · exact length_restOfLine_le c

/-- the longest part in front that `p` holds of is followed by something else -/
theorem stop_of_takeWhile {p : Char → Bool} {cs rest : List Char} {ch : Char}
    (h : cs.drop (cs.takeWhile p).length = ch :: rest) : p ch = false := by
  have hdrop : cs.drop (cs.takeWhile p).length = cs.dropWhile p := by
    calc cs.drop (cs.takeWhile p).length
        = (cs.takeWhile p ++ cs.dropWhile p).drop (cs.takeWhile p).length := by
          rw [List.takeWhile_append_dropWhile]
      _ = cs.dropWhile p := List.drop_left
  have hhead := List.head?_dropWhile_not p cs
  rw [← hdrop, h] at hhead
  exact hhead

/-- behind an indentation no blank is left -/
theorem not_isBlank_of_indentation? (h : c.indentation? floor = some next) {ch : Char}
    {cs : List Char} (hrest : next.rest = ch :: cs) : Text.isBlank ch = false := by
  rcases indentation?_cases h with rfl | ⟨-, hend⟩
  · exact stop_of_takeWhile hrest
  · rw [atLineEnd, hrest] at hend
    rcases Bool.or_eq_true_iff.mp hend with heq | heq <;> rw [of_decide_eq_true heq] <;> rfl

/-- behind a comment is the end of the line -/
theorem comment_cases (c : Cursor) :
    c.comment = c ∧ c.rest.head? ≠ some '#' ∨ c.comment.atLineEnd = true := by
  unfold comment
  split
  · next cs found =>
    right
    show (c.rest.drop _).head?.all isBreak = true
    rw [found, Nat.add_comm, List.drop_succ_cons]
    cases hdrop : cs.drop (cs.takeWhile fun ch => !isBreak ch).length with
    | nil => rfl
    | cons ch rest => exact Bool.not_eq_eq_eq_not.mp (stop_of_takeWhile hdrop)
  · next hother =>
    left
    refine ⟨rfl, fun heq => ?_⟩
    obtain ⟨cs, hcs⟩ := List.head?_eq_some_iff.mp heq
    exact hother cs hcs

theorem exists_rest_of_any {p : Char → Bool} (h : c.rest.head?.any p = true) :
    ∃ ch cs, c.rest = ch :: cs ∧ p ch = true := by
  obtain ⟨ch, hhead, hp⟩ := (Option.any_eq_true _ _).mp h
  obtain ⟨cs, hcs⟩ := List.head?_eq_some_iff.mp hhead
  exact ⟨ch, cs, hcs, hp⟩

theorem length_leadingBlanks_pos (h : c.rest.head?.any Text.isBlank = true) :
    0 < c.leadingBlanks.length := by
  obtain ⟨ch, cs, hrest, hblank⟩ := exists_rest_of_any h
  unfold leadingBlanks
  rw [hrest, List.takeWhile_cons_of_pos hblank]
  exact Nat.succ_pos _

theorem length_lt_of_indentation? (hblank : c.rest.head?.any Text.isBlank = true)
    (h : c.indentation? floor = some next) : next.rest.length < c.rest.length := by
  obtain ⟨ch, cs, hrest, -⟩ := exists_rest_of_any hblank
  have hpos := length_leadingBlanks_pos hblank
  have hle := length_le_of_indentation? h
  rw [hrest, List.length_cons] at hle ⊢
  omega

/-- a gap is a line break, or there are blanks in front -/
theorem length_lt_of_isGap (h : c.rest.head?.any isGap = true)
    (hbreak : c.overBlanks.atBreak ≠ true) : c.overBlanks.rest.length < c.rest.length := by
  obtain ⟨ch, cs, hrest, hgap⟩ := exists_rest_of_any h
  rcases Bool.or_eq_true_iff.mp hgap with hblank | hch
  · have hany : c.rest.head?.any Text.isBlank = true := by
      rw [hrest]
      exact hblank
    have hpos := length_leadingBlanks_pos hany
    rw [length_overBlanks, hrest, List.length_cons]
    omega
  · have hnone : c.leadingBlanks = [] := by
      unfold leadingBlanks
      rw [hrest]
      rcases Bool.or_eq_true_iff.mp hch with heq | heq <;> rw [of_decide_eq_true heq] <;> rfl
    refine absurd ?_ hbreak
    show (c.rest.drop c.leadingBlanks.length).head?.any isBreak = true
    rw [hnone, hrest]
    exact hch

end

/-- goes to the next visible character that is not part of a comment -/
def toToken? (floor : Int) (c : Cursor) : Option Cursor :=
  match _h : c.indentation? floor with
  | none => none
  | some visible =>
    if _hbreak : visible.comment.atBreak then toToken? floor visible.comment.newline
    else some visible.comment
termination_by c.rest.length
decreasing_by
  have hindentation := length_le_of_indentation? _h
  have hcomment := length_comment_le visible
  have hnewline := length_newline_lt _hbreak
  omega

/-- the next token or the end of the text stands here -/
def atToken (c : Cursor) : Bool := c.rest.head?.all fun ch => !isGap ch && ch ≠ '#'

theorem length_le_of_toToken? {c next : Cursor} {floor : Int} (h : c.toToken? floor = some next) :
    next.rest.length ≤ c.rest.length := by
  fun_induction toToken? floor c with
  | case1 => cases h
  | case2 c visible hvisible hbreak ih =>
    have hindentation := length_le_of_indentation? hvisible
    have hcomment := length_comment_le visible
    have hnewline := length_newline_le visible.comment
    have hnext := ih h
    omega
  | case3 c visible hvisible hbreak =>
    cases h
    have hindentation := length_le_of_indentation? hvisible
    have hcomment := length_comment_le visible
    omega

theorem atToken_of_toToken? {c next : Cursor} {floor : Int} (h : c.toToken? floor = some next) :
    next.atToken = true := by
  fun_induction toToken? floor c with
  | case1 => cases h
  | case2 c visible hvisible hbreak ih => exact ih h
  | case3 c visible hvisible hbreak =>
    cases h
    unfold atToken
    cases hrest : visible.comment.rest with
    | nil => rfl
    | cons ch cs =>
      rw [atBreak, hrest] at hbreak
      change ¬ isBreak ch = true at hbreak
      rcases comment_cases visible with ⟨hsame, hsign⟩ | hend
      · rw [hsame] at hrest
        rw [hrest] at hsign
        have hblank := not_isBlank_of_indentation? hvisible hrest
        have hnobreak : isBreak ch = false := Bool.eq_false_iff.mpr hbreak
        have hne : ch ≠ '#' := fun heq => hsign (congrArg some heq)
        show (!(Text.isBlank ch || isBreak ch) && decide (ch ≠ '#')) = true
        rw [hblank, hnobreak, decide_eq_true hne]
        rfl
      · rw [atLineEnd, hrest] at hend
        exact absurd hend hbreak

end Cursor

end RightSizing.Yaml
