import RightSizing.Yaml.Quoted

/-!
# Plain scalars

`Yaml.plain?` reads a scalar without quotes.  It ends in front of a colon or a comment that a gap
sets apart, and in flow style also in front of the signs of flow style.  It may go on in the next
line, which has to start at the column `floor` or behind it unless the scalar stands in flow style;
lines are folded as in quotes.
-/

namespace RightSizing.Yaml

/-- whether a plain scalar holds the character that starts here -/
def holdsPlain (inFlow : Bool) : List Char → Bool
  | ':' :: cs => !(gapFollows cs || (inFlow && flowFollows cs))
  | c :: _ => !(isGap c || (inFlow && isFlow c))
  | [] => false

theorem holdsPlain_of_ne {inFlow : Bool} {c : Char} (cs : List Char) (hgap : isGap c = false)
    (hflow : isFlow c = false) (hcolon : c ≠ ':') : holdsPlain inFlow (c :: cs) = true := by
  unfold holdsPlain
  split
  · next heq => exact absurd (List.cons.inj heq).1 hcolon
  · next heq =>
    cases heq
    rw [hgap, hflow, Bool.and_false]
    rfl
  · next heq => cases heq

/-- the characters up to a gap or the end of the scalar -/
def plainWord (inFlow : Bool) : List Char → List Char
  | [] => []
  | c :: cs => if holdsPlain inFlow (c :: cs) then c :: plainWord inFlow cs else []

/-- what stands between two words: blanks of one line, or breaks -/
structure Gap where
  blanks : List Char
  /-- a line break that folds into a blank -/
  broken : Bool
  /-- the breaks of empty lines -/
  emptyLines : Nat

namespace Gap

def empty : Gap := ⟨[], false, 0⟩

/-- `leading` tells whether the gap ends at the start of a line -/
def text (leading : Bool) (g : Gap) : List Char :=
  if !leading then g.blanks
  else if g.broken then foldBreaks g.emptyLines
  else List.replicate g.emptyLines '\n'

/-- the text of the gap and of the word behind it, if there is one -/
def join (leading : Bool) (word : List Char) (g : Gap) : List Char :=
  if word.isEmpty then [] else g.text leading ++ word

/-- what is left of the gap behind the word -/
def after (word : List Char) (g : Gap) : Gap := if word.isEmpty then g else empty

end Gap

/-- goes over a gap; in a line with text a tab may not stand in front of the column `floor` -/
def plainGap? (floor : Int) (g : Gap) (c : Cursor) : Option (Gap × Cursor) :=
  if _hbreak : c.atBreak then
    if c.leading then plainGap? floor { g with emptyLines := g.emptyLines + 1 } c.newline
    else plainGap? floor { g with blanks := [], broken := true } c.newline
  else if _hblank : c.rest.head?.any Text.isBlank then
    match _hnext : c.indentation? floor with
    | none => none
    | some next =>
      let blanks := if c.leading then g.blanks else g.blanks ++ c.leadingBlanks
      plainGap? floor { g with blanks := blanks } next
  else some (g, c)
termination_by c.rest.length
decreasing_by
  · exact Cursor.length_newline_lt _hbreak
  · exact Cursor.length_newline_lt _hbreak
  · exact Cursor.length_lt_of_indentation? _hblank _hnext

/-- a gap that is there takes a character at least -/
theorem length_of_plainGap? {floor : Int} {g g' : Gap} {c next : Cursor}
    (h : plainGap? floor g c = some (g', next)) :
    next.rest.length ≤ c.rest.length ∧
      (c.rest.head?.any isGap = true → next.rest.length < c.rest.length) := by
  fun_induction plainGap? floor g c with
  | case1 g c hbreak hleading ih =>
    have hlt := Nat.lt_of_le_of_lt (ih h).1 (Cursor.length_newline_lt hbreak)
    exact ⟨Nat.le_of_lt hlt, fun _ => hlt⟩
  | case2 g c hbreak hleading ih =>
    have hlt := Nat.lt_of_le_of_lt (ih h).1 (Cursor.length_newline_lt hbreak)
    exact ⟨Nat.le_of_lt hlt, fun _ => hlt⟩
  | case3 => cases h
  | case4 g c hbreak hblank next hnext blanks ih =>
    have hlt := Nat.lt_of_le_of_lt (ih h).1 (Cursor.length_lt_of_indentation? hblank hnext)
    exact ⟨Nat.le_of_lt hlt, fun _ => hlt⟩
  | case5 g c hbreak hblank =>
    cases h
    refine ⟨Nat.le_refl _, fun hgap => ?_⟩
    -- a gap is a break or a blank
    obtain ⟨ch, cs, hrest, hch⟩ := Cursor.exists_rest_of_any hgap
    rw [Cursor.atBreak, hrest] at hbreak
    rw [hrest] at hblank
    rcases Bool.or_eq_true_iff.mp hch with heq | heq
    · exact absurd heq hblank
    · exact absurd heq hbreak

/-- the place behind a word, which may be empty -/
def overWord (word : List Char) (c : Cursor) : Cursor :=
  if word.isEmpty then c else c.skip word.length

theorem length_overWord_le (word : List Char) (c : Cursor) :
    (overWord word c).rest.length ≤ c.rest.length := by
  unfold overWord
  split
  · exact Nat.le_refl _
  · exact Cursor.length_skip_le _ c

/-- the text behind some words and a gap -/
def plainLines? (inFlow : Bool) (floor : Int) (g : Gap) (c : Cursor) :
    Option (List Char × Cursor) :=
  if c.atMarker || c.rest.head? = some '#' then some ([], c)
  else if inFlow && c.rest.head? = some '-' && flowFollows (c.rest.drop 1) then none
  else if _hgap : (overWord (plainWord inFlow c.rest) c).rest.head?.any isGap then
    match _hnext : plainGap? floor (g.after (plainWord inFlow c.rest))
        (overWord (plainWord inFlow c.rest) c) with
    | none => none
    | some (g', next) =>
      if !inFlow && next.column < floor then
        some (g.join c.leading (plainWord inFlow c.rest), next)
      else (plainLines? inFlow floor g' next).map fun (more, last) =>
        (g.join c.leading (plainWord inFlow c.rest) ++ more, last)
  else some (g.join c.leading (plainWord inFlow c.rest), overWord (plainWord inFlow c.rest) c)
termination_by c.rest.length
decreasing_by
  exact Nat.lt_of_lt_of_le ((length_of_plainGap? _hnext).2 _hgap) (length_overWord_le _ c)

/-- unless the scalar ends here, its next word is left behind -/
theorem length_of_plainLines? {inFlow : Bool} {floor : Int} {g : Gap} {text : List Char}
    {c last : Cursor} (h : plainLines? inFlow floor g c = some (text, last)) :
    last.rest.length ≤ c.rest.length ∧
      (¬ (c.atMarker || c.rest.head? = some '#') = true →
        last.rest.length ≤ (overWord (plainWord inFlow c.rest) c).rest.length) := by
  fun_induction plainLines? inFlow floor g c generalizing text with
  | case1 g c hend =>
    cases h
    exact ⟨Nat.le_refl _, fun hstart => absurd hend hstart⟩
  | case2 => cases h
  | case3 => cases h
  | case4 g c hend hdash hgap g' next hnext hdeep =>
    cases h
    have hle := (length_of_plainGap? hnext).1
    exact ⟨Nat.le_trans hle (length_overWord_le _ c), fun _ => hle⟩
  | case5 g c hend hdash hgap g' next hnext hdeep ih =>
    obtain ⟨⟨more, last'⟩, hlast, heq⟩ := Option.map_eq_some_iff.mp h
    obtain ⟨-, rfl⟩ := Prod.mk.inj heq
    have hle := Nat.le_trans (ih hlast).1 (length_of_plainGap? hnext).1
    exact ⟨Nat.le_trans hle (length_overWord_le _ c), fun _ => hle⟩
  | case6 g c hend hdash hgap =>
    cases h
    exact ⟨length_overWord_le _ c, fun _ => Nat.le_refl _⟩

def plain? (inFlow : Bool) (floor : Int) (c : Cursor) : Option (List Char × Cursor) :=
  if inFlow && c.column < floor then none else plainLines? inFlow floor Gap.empty c

/-- a scalar takes its first character at least -/
theorem length_lt_of_plain? {inFlow : Bool} {floor : Int} {text : List Char} {c last : Cursor}
    (hmarker : c.atMarker = false) (hcomment : c.rest.head? ≠ some '#')
    (hholds : holdsPlain inFlow c.rest = true) (h : plain? inFlow floor c = some (text, last)) :
    last.rest.length < c.rest.length := by
  obtain ⟨-, h⟩ := Option.ite_none_left_eq_some.mp h
  have hword : (overWord (plainWord inFlow c.rest) c).rest.length < c.rest.length := by
    cases hrest : c.rest with
    | nil =>
      rw [hrest] at hholds
      cases hholds
    | cons ch cs =>
      rw [hrest] at hholds
      rw [plainWord, if_pos hholds]
      show (c.skip _).rest.length < _
      rw [Cursor.length_skip, hrest, List.length_cons, List.length_cons]
      omega
  have hstart : ¬ (c.atMarker || c.rest.head? = some '#') = true := by
    rw [hmarker, decide_eq_false hcomment]
    exact Bool.false_ne_true
  exact Nat.lt_of_le_of_lt ((length_of_plainLines? h).2 hstart) hword

end RightSizing.Yaml
