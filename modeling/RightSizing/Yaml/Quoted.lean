import RightSizing.Json.Reader
import RightSizing.Yaml.Cursor

/-!
# Scalars in quotes

`Yaml.quoted?` reads a scalar behind its opening quote, on one line or on many.  A single quote is
written twice, a double quote behind a backslash.  A line break with the blanks around it is folded
into a blank, and several into one less; behind a backslash it counts for nothing.  A line may not
start in front of the column `floor`, and not with the sign of a document.
-/

namespace RightSizing.Yaml

/-- the character of an escape with one letter -/
def escaped? : Char → Option Char
  | '0' => some '\x00'
  | 'a' => some '\x07'
  | 'b' => some '\x08'
  | 't' | '\t' => some '\t'
  | 'n' => some '\n'
  | 'v' => some '\x0b'
  | 'f' => some '\x0c'
  | 'r' => some '\r'
  | 'e' => some '\x1b'
  | ' ' => some ' '
  | '"' => some '"'
  | '/' => some '/'
  | '\\' => some '\\'
  | 'N' => some '\u0085'
  | '_' => some '\u00a0'
  | 'L' => some '\u2028'
  | 'P' => some '\u2029'
  | _ => none

/-- the character of an escape behind its backslash, and the rest -/
def escape? : List Char → Option (Char × List Char)
  | 'x' :: cs => Json.coded? 2 cs
  | 'u' :: cs => Json.coded? 4 cs
  | 'U' :: cs => Json.coded? 8 cs
  | c :: cs => (escaped? c).map (·, cs)
  | [] => none

theorem suffix_of_coded? {count : Nat} {c : Char} {cs rest : List Char}
    (h : Json.coded? count cs = some (c, rest)) : rest <:+ cs := by
  obtain ⟨-, h⟩ := Option.ite_none_left_eq_some.mp h
  obtain ⟨c', -, heq⟩ := Option.map_eq_some_iff.mp h
  cases heq
  exact List.drop_suffix _ _

theorem suffix_of_escape? {c : Char} {cs rest : List Char} (h : escape? cs = some (c, rest)) :
    rest <:+ cs.tail := by
  unfold escape? at h
  split at h
  · exact suffix_of_coded? h
  · exact suffix_of_coded? h
  · exact suffix_of_coded? h
  · obtain ⟨c', -, heq⟩ := Option.map_eq_some_iff.mp h
    cases heq
    exact List.suffix_refl _
  · cases h

/-- a word in single quotes up to a gap or the closing quote, and the rest -/
def singleWord : List Char → List Char × List Char
  | [] => ([], [])
  | '\'' :: '\'' :: cs =>
    let (word, rest) := singleWord cs
    ('\'' :: word, rest)
  | c :: cs =>
    if isGap c || c = '\'' then ([], c :: cs)
    else
      let (word, rest) := singleWord cs
      (c :: word, rest)

/-- a word in double quotes up to a gap or the closing quote, whether a backslash in front of a line
break ends it, and the rest -/
def doubleWord? (cs : List Char) : Option (List Char × Bool × List Char) :=
  match cs with
  | [] => some ([], false, [])
  | '\\' :: cs =>
    if cs.head?.any isBreak then some ([], true, cs)
    else match _h : escape? cs with
      | none => none
      | some (c, rest) =>
        (doubleWord? rest).map fun (word, ended, rest) => (c :: word, ended, rest)
  | c :: cs =>
    if isGap c || c = '"' then some ([], false, c :: cs)
    else (doubleWord? cs).map fun (word, ended, rest) => (c :: word, ended, rest)
termination_by cs.length
decreasing_by
  · have hle := (suffix_of_escape? _h).length_le
    rw [List.length_tail] at hle
    rw [List.length_cons]
    omega
  · exact Nat.lt_succ_self _

def quotedWord? (single : Bool) (cs : List Char) : Option (List Char × Bool × List Char) :=
  if single then
    let (word, rest) := singleWord cs
    some (word, false, rest)
  else doubleWord? cs

def quoteMark (single : Bool) : Char := if single then '\'' else '"'

/-- where a word of a quoted scalar may end -/
structure WordEnd (single ended : Bool) (cs rest : List Char) : Prop where
  suffix : rest <:+ cs
  broken : ended = true → rest.head?.any isBreak = true
  gap : ended = false → rest.head?.all (fun c => isGap c || c = quoteMark single) = true

namespace WordEnd

variable {single ended : Bool} {c : Char} {cs rest word : List Char}

theorem cons (h : WordEnd single ended cs rest) : WordEnd single ended (c :: cs) rest :=
  ⟨h.suffix.trans (List.suffix_cons _ _), h.broken, h.gap⟩

theorem ofSingle (cs : List Char) : WordEnd true false cs (singleWord cs).2 := by
  fun_induction singleWord cs with
  | case1 => exact ⟨List.suffix_refl _, nofun, fun _ => rfl⟩
  | case2 cs word rest heq ih =>
    rw [heq] at ih
    exact ih.cons.cons
  | case3 c cs hother hend => exact ⟨List.suffix_refl _, nofun, fun _ => hend⟩
  | case4 c cs hother hend word rest heq ih =>
    rw [heq] at ih
    exact ih.cons

theorem ofDouble (h : doubleWord? cs = some (word, ended, rest)) :
    WordEnd false ended cs rest := by
  fun_induction doubleWord? cs generalizing word with
  | case1 =>
    cases h
    exact ⟨List.suffix_refl _, nofun, fun _ => rfl⟩
  | case2 cs hbreak =>
    cases h
    exact ⟨List.suffix_cons _ _, fun _ => hbreak, nofun⟩
  | case3 => cases h
  | case4 cs hbreak c next hescape ih =>
    obtain ⟨⟨word', ended', rest'⟩, hnext, heq⟩ := Option.map_eq_some_iff.mp h
    cases heq
    have hend := ih hnext
    have hsuffix : next <:+ cs := (suffix_of_escape? hescape).trans (List.tail_suffix _)
    exact ⟨(hend.suffix.trans hsuffix).trans (List.suffix_cons _ _), hend.broken, hend.gap⟩
  | case5 c cs hother hend =>
    cases h
    exact ⟨List.suffix_refl _, nofun, fun _ => hend⟩
  | case6 c cs hother hend ih =>
    obtain ⟨⟨word', ended', rest'⟩, hnext, heq⟩ := Option.map_eq_some_iff.mp h
    cases heq
    exact (ih hnext).cons

theorem ofQuoted (h : quotedWord? single cs = some (word, ended, rest)) :
    WordEnd single ended cs rest := by
  cases single with
  | true =>
    cases h
    exact ofSingle cs
  | false => exact ofDouble h

end WordEnd

/-! ## Folding -/

/-- goes over empty lines and the blanks in front of the next text, and counts the breaks -/
def emptyLines? (floor : Int) (c : Cursor) : Option (Nat × Cursor) :=
  if (c.leadingBlanks.take (floor - c.column).toNat).contains '\t' then none
  else if _h : c.overBlanks.atBreak then
    (emptyLines? floor c.overBlanks.newline).map fun (count, c) => (count + 1, c)
  else some (0, c.overBlanks)
termination_by c.rest.length
decreasing_by
  have hblanks := c.length_overBlanks
  have hnewline := Cursor.length_newline_lt _h
  omega

/-- the text of a line break and of some empty lines behind it -/
def foldBreaks (emptyLines : Nat) : List Char :=
  if emptyLines = 0 then [' '] else List.replicate emptyLines '\n'

/-- the text of the gap between two words, `ended` being as above -/
def quotedGap? (floor : Int) (ended : Bool) (c : Cursor) : Option (List Char × Cursor) :=
  if ended then (emptyLines? floor c).map fun (count, c) => (List.replicate count '\n', c)
  else if c.overBlanks.atBreak then
    (emptyLines? floor c.overBlanks.newline).map fun (count, c) => (foldBreaks count, c)
  else some (c.leadingBlanks, c.overBlanks)

section
variable {floor : Int} {c next : Cursor} {gap : List Char}

theorem length_le_of_emptyLines? {count : Nat} (h : emptyLines? floor c = some (count, next)) :
    next.rest.length ≤ c.rest.length := by
  fun_induction emptyLines? floor c generalizing count with
  | case1 => cases h
  | case2 c htab hbreak ih =>
    obtain ⟨⟨count', last⟩, hlast, heq⟩ := Option.map_eq_some_iff.mp h
    obtain ⟨-, rfl⟩ := Prod.mk.inj heq
    have hnext := ih hlast
    have hblanks := c.length_overBlanks
    have hnewline := Cursor.length_newline_lt hbreak
    omega
  | case3 c htab hbreak =>
    cases h
    have hblanks := c.length_overBlanks
    omega

/-- a gap that is there takes a character at least, unless the last word has taken it -/
theorem length_of_quotedGap? {ended : Bool} (h : quotedGap? floor ended c = some (gap, next)) :
    next.rest.length ≤ c.rest.length ∧
      (ended = false → c.rest.head?.any isGap = true → next.rest.length < c.rest.length) := by
  unfold quotedGap? at h
  have hblanks := c.length_overBlanks
  split at h
  · next hended =>
    obtain ⟨⟨count, last⟩, hlast, heq⟩ := Option.map_eq_some_iff.mp h
    cases heq
    exact ⟨length_le_of_emptyLines? hlast, fun hword => absurd hended (Bool.eq_false_iff.mp hword)⟩
  split at h
  · next hbreak =>
    obtain ⟨⟨count, last⟩, hlast, heq⟩ := Option.map_eq_some_iff.mp h
    obtain ⟨-, rfl⟩ := Prod.mk.inj heq
    have hempty := length_le_of_emptyLines? hlast
    have hnewline := Cursor.length_newline_lt hbreak
    have hlt : last.rest.length < c.rest.length := by omega
    exact ⟨Nat.le_of_lt hlt, fun _ _ => hlt⟩
  · next hbreak =>
    cases h
    exact ⟨by omega, fun _ hgap => Cursor.length_lt_of_isGap hgap hbreak⟩

end

/-! ## The scalar -/

/-- the place behind a word -/
def wordBehind (ended : Bool) (rest : List Char) (c : Cursor) : Cursor :=
  if ended then (c.upTo rest).newline else c.upTo rest

/-- a line of a scalar takes a character at least: it has a word, or a gap behind it -/
theorem length_lt_of_gapBehind {single ended : Bool} {floor : Int} {word rest gap : List Char}
    {c next : Cursor} (hend : c.atEnd ≠ true)
    (hword : quotedWord? single c.rest = some (word, ended, rest))
    (hmark : (wordBehind ended rest c).rest.head? ≠ some (quoteMark single))
    (hgap : quotedGap? floor ended (wordBehind ended rest c) = some (gap, next)) :
    next.rest.length < c.rest.length := by
  have hwordEnd := WordEnd.ofQuoted hword
  have hrest := Cursor.rest_upTo hwordEnd.suffix
  have hle := hwordEnd.suffix.length_le
  cases ended with
  | true =>
    have hbreak : (c.upTo rest).atBreak = true := by
      unfold Cursor.atBreak
      rw [hrest]
      exact hwordEnd.broken rfl
    have hnewline := Cursor.length_newline_lt hbreak
    rw [hrest] at hnewline
    have hnext : next.rest.length ≤ (c.upTo rest).newline.rest.length :=
      (length_of_quotedGap? hgap).1
    omega
  | false =>
    change (c.upTo rest).rest.head? ≠ _ at hmark
    rw [hrest] at hmark
    change quotedGap? floor false (c.upTo rest) = _ at hgap
    have hstop := hwordEnd.gap rfl
    cases rest with
    | nil =>
      have hnext := (length_of_quotedGap? hgap).1
      rw [hrest, List.length_nil] at hnext
      have hpos : 0 < c.rest.length :=
        List.length_pos_iff.mpr fun heq => hend (List.isEmpty_iff.mpr heq)
      omega
    | cons ch cs =>
      have hchar : isGap ch = true := by
        rcases Bool.or_eq_true_iff.mp hstop with hchar | hquote
        · exact hchar
        · exact absurd (congrArg some (of_decide_eq_true hquote)) hmark
      have hany : (c.upTo (ch :: cs)).rest.head?.any isGap = true := by
        rw [hrest]
        exact hchar
      have hnext := (length_of_quotedGap? hgap).2 rfl hany
      rw [hrest] at hnext
      omega

def quoted? (single : Bool) (floor : Int) (c : Cursor) : Option (List Char × Cursor) :=
  if _hstart : c.atMarker || c.atEnd || c.column < floor then none
  else match _hword : quotedWord? single c.rest with
    | none => none
    | some (word, ended, rest) =>
      if _hmark : (wordBehind ended rest c).rest.head? = some (quoteMark single) then
        some (word, (wordBehind ended rest c).skip 1)
      else match _hgap : quotedGap? floor ended (wordBehind ended rest c) with
        | none => none
        | some (gap, next) =>
          (quoted? single floor next).map fun (more, last) => (word ++ gap ++ more, last)
termination_by c.rest.length
decreasing_by
  have hend : c.atEnd ≠ true := by
    intro hend
    rw [hend, Bool.or_true] at _hstart
    exact _hstart rfl
  exact length_lt_of_gapBehind hend _hword _hmark _hgap

theorem length_wordBehind_le {single ended : Bool} {word rest : List Char} {c : Cursor}
    (hword : quotedWord? single c.rest = some (word, ended, rest)) :
    (wordBehind ended rest c).rest.length ≤ c.rest.length := by
  have hle := Cursor.length_upTo_le rest c
  cases ended with
  | true => exact Nat.le_trans (Cursor.length_newline_le _) hle
  | false => exact hle

theorem length_le_of_quoted? {single : Bool} {floor : Int} {text : List Char} {c last : Cursor}
    (h : quoted? single floor c = some (text, last)) : last.rest.length ≤ c.rest.length := by
  fun_induction quoted? single floor c generalizing text with
  | case1 => cases h
  | case2 => cases h
  | case3 c hstart word ended rest hword hmark =>
    cases h
    exact Nat.le_trans (Cursor.length_skip_le _ _) (length_wordBehind_le hword)
  | case4 => cases h
  | case5 c hstart word ended rest hword hmark gap next hgap ih =>
    obtain ⟨⟨more, last'⟩, hlast, heq⟩ := Option.map_eq_some_iff.mp h
    obtain ⟨-, rfl⟩ := Prod.mk.inj heq
    have hbehind := length_wordBehind_le hword
    have hnext := (length_of_quotedGap? hgap).1
    have hmore := ih hlast
    omega

end RightSizing.Yaml
