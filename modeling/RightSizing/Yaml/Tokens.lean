import RightSizing.Yaml.Block
import RightSizing.Yaml.Plain
import RightSizing.Yaml.Scan
import RightSizing.Yaml.Tag

/-!
# Finding the tokens of a YAML text

`Yaml.tokens?` gives the tokens of a text, or nothing if its layout is broken.  A `Scan` is taken from
token to token by `Scan.next?`, which looks at the character of the next token (`Scan.sign?`) and
leaves it behind; so the tokens come to an end (`Scan.advances_of_next?`).
-/

namespace RightSizing.Yaml.Scan

/-- a character at least is left behind, if there is one -/
def Advances (s s' : Scan) : Prop := s'.cursor.rest.length ≤ s.cursor.rest.length - 1

variable {s s' : Scan}

theorem advances_of_lineEnd? {last : Cursor} (h : (s.cursor.skip 1).lineEnd? = some last)
    (hlast : s'.cursor = last) : s.Advances s' := by
  unfold Advances
  rw [hlast, ← Cursor.length_skip]
  exact Cursor.length_le_of_lineEnd? h

/-- goes to the next visible character; in block style a key may start in a new line -/
def toToken? (s : Scan) : Option Scan := do
  let next ← s.cursor.toToken? s.column
  let fresh := !s.inFlow && s.cursor.line < next.line
  some { s with cursor := next, keyAllowed := s.keyAllowed || fresh }

theorem cursor_of_toToken? (h : s.toToken? = some s') :
    s.cursor.toToken? s.column = some s'.cursor := by
  obtain ⟨next, hnext, heq⟩ := Option.bind_eq_some_iff.mp h
  cases heq
  exact hnext

/-- what was left open ends with the text or the document -/
def closeAll? (s : Scan) : Option Scan := do
  let s ← (s.unwind (-1)).dropCandidate?
  some (s.allowKey false)

theorem cursor_of_closeAll? (h : s.closeAll? = some s') : s'.cursor = s.cursor := by
  obtain ⟨closed, hclosed, heq⟩ := Option.bind_eq_some_iff.mp h
  cases heq
  show closed.cursor = s.cursor
  rw [cursor_of_dropCandidate? hclosed, cursor_unwind]

/-- the end of the text -/
def stream? (s : Scan) : Option Scan := do
  if s.candidates.any fun k => k.possible && k.required then none
  let s ← s.closeAll?
  some (s.push .streamEnd)

theorem streamEnd_of_stream? (h : s.stream? = some s') :
    s'.tokens.head? = some .streamEnd := by
  unfold stream? at h
  simp only [Option.bind_eq_bind, Option.bind_none, Option.ite_none_left_eq_some,
    Option.bind_eq_some_iff] at h
  obtain ⟨-, closed, -, h⟩ := h
  cases h
  rfl

def directive? (s : Scan) : Option Scan := do
  let s ← s.closeAll?
  let (token, c) ← Yaml.directive? s.cursor
  some ((s.push token).moveTo c)

theorem advances_of_directive? (h : s.directive? = some s') : s.Advances s' := by
  obtain ⟨closed, hclosed, h⟩ := Option.bind_eq_some_iff.mp h
  obtain ⟨⟨token, last⟩, hlast, heq⟩ := Option.bind_eq_some_iff.mp h
  cases heq
  unfold Advances
  rw [← cursor_of_closeAll? hclosed]
  exact length_le_of_directive? hlast

/-- the sign of the start or the end of a document -/
def marker? (s : Scan) : Option Scan := do
  let s ← s.closeAll?
  let behind := s.cursor.skip 3
  if s.cursor.rest.head? = some '-' then some ((s.push .documentStart).moveTo behind)
  else
    let last ← behind.lineEnd?
    if last.atLineEnd then some ((s.push .documentEnd).moveTo last) else none

theorem advances_of_marker? (h : s.marker? = some s') : s.Advances s' := by
  obtain ⟨closed, hclosed, h⟩ := Option.bind_eq_some_iff.mp h
  have hskip := Cursor.length_skip 3 closed.cursor
  unfold Advances
  rw [← cursor_of_closeAll? hclosed]
  dsimp only at h
  split at h
  · cases h
    show (closed.cursor.skip 3).rest.length ≤ _
    omega
  · obtain ⟨last, hlast, h⟩ := Option.bind_eq_some_iff.mp h
    obtain ⟨-, h⟩ := Option.ite_none_right_eq_some.mp h
    cases h
    have hle := Cursor.length_le_of_lineEnd? hlast
    show last.rest.length ≤ _
    omega

/-- the opening sign of a list or a mapping in flow style, of which 255 may be open -/
def openFlow? (isList : Bool) (s : Scan) : Option Scan := do
  let s := s.markCandidate.deepen
  if 255 ≤ s.flowDepth then none
  let last ← (s.cursor.skip 1).lineEnd?
  let s := { s with
    cursor := last
    candidates := ⟨false, false, 0, s.cursor⟩ :: s.candidates
    flowDepth := s.flowDepth + 1
    keyAllowed := true
    inFlowMapping := s.inFlowMapping || !isList
    pairs := if isList then false :: s.pairs else s.pairs }
  some (s.push (if isList then .flowListStart else .flowMappingStart))

theorem advances_of_openFlow? {isList : Bool} (h : s.openFlow? isList = some s') :
    s.Advances s' := by
  unfold openFlow? at h
  simp only [Option.bind_eq_bind, Option.bind_none, Option.ite_none_left_eq_some,
    Option.bind_eq_some_iff] at h
  obtain ⟨-, last, hlast, h⟩ := h
  rw [cursor_deepen, s.place_markCandidate.1] at hlast
  cases h
  exact advances_of_lineEnd? hlast rfl

/-- the end of a pair in a list, if it had no sign of its own -/
def closePair (s : Scan) : Scan :=
  match s.pairs with
  | true :: outer => { s with inFlowMapping := false, pairs := false :: outer }.push .flowMappingEnd
  | _ => s

theorem cursor_closePair (s : Scan) : s.closePair.cursor = s.cursor := by
  unfold closePair
  split <;> rfl

/-- leaves the innermost collection in flow style -/
def leaveFlow (isList : Bool) (s : Scan) : Scan :=
  let s := if s.inFlow then
      { s with flowDepth := s.flowDepth - 1, candidates := s.candidates.drop 1 }
    else s
  let s := s.allowKey false
  if isList then { s.closePair with pairs := s.pairs.drop 1 } else s

theorem cursor_leaveFlow (isList : Bool) (s : Scan) : (s.leaveFlow isList).cursor = s.cursor := by
  unfold leaveFlow
  dsimp only
  split
  · show (closePair _).cursor = s.cursor
    rw [cursor_closePair]
    unfold allowKey
    split <;> rfl
  · unfold allowKey
    split <;> rfl

def closeFlow? (isList : Bool) (s : Scan) : Option Scan := do
  let s ← s.dropCandidate?
  let s := s.leaveFlow isList
  let last ← (s.cursor.skip 1).lineEnd?
  let s := if s.inFlow then { s with adjacentAt := last.index } else s
  some ((s.push (if isList then .flowListEnd else .flowMappingEnd)).moveTo last)

theorem advances_of_closeFlow? {isList : Bool} (h : s.closeFlow? isList = some s') :
    s.Advances s' := by
  obtain ⟨dropped, hdropped, h⟩ := Option.bind_eq_some_iff.mp h
  obtain ⟨last, hlast, heq⟩ := Option.bind_eq_some_iff.mp h
  rw [cursor_leaveFlow, cursor_of_dropCandidate? hdropped] at hlast
  cases heq
  exact advances_of_lineEnd? hlast rfl

/-- the comma between items -/
def comma? (s : Scan) : Option Scan := do
  let s ← s.dropCandidate?
  let s := (s.allowKey true).closePair
  let last ← (s.cursor.skip 1).lineEnd?
  some ((s.push .flowEntry).moveTo last)

theorem advances_of_comma? (h : s.comma? = some s') : s.Advances s' := by
  obtain ⟨dropped, hdropped, h⟩ := Option.bind_eq_some_iff.mp h
  obtain ⟨last, hlast, heq⟩ := Option.bind_eq_some_iff.mp h
  have hplace : (dropped.allowKey true).closePair.cursor = s.cursor := by
    rw [cursor_closePair]
    show dropped.cursor = s.cursor
    exact cursor_of_dropCandidate? hdropped
  rw [hplace] at hlast
  cases heq
  exact advances_of_lineEnd? hlast rfl

/-- the dash of an item; behind a tab no other dash may follow -/
def dash? (s : Scan) : Option Scan := do
  if s.inFlow || !s.keyAllowed then none
  let behind := s.cursor.skip 1
  let s := s.openBlock s.cursor.column s.tokens.length .listStart
  let last ← behind.lineEnd?
  let dashFollows := last.rest.head? = some '-' && gapFollows (last.rest.drop 1)
  if behind.leadingBlanks.contains '\t' && dashFollows then none
  let s := s.moveTo last
  let s := if last.atBreak || flowFollows last.rest then s.deepen else s
  let s ← s.dropCandidate?
  some ((s.allowKey true).push .blockEntry)

theorem advances_of_dash? (h : s.dash? = some s') : s.Advances s' := by
  unfold dash? at h
  simp only [Option.bind_eq_bind, Option.bind_none, Option.ite_none_left_eq_some,
    Option.bind_eq_some_iff] at h
  obtain ⟨-, last, hlast, -, dropped, hdropped, h⟩ := h
  cases h
  refine advances_of_lineEnd? hlast ?_
  show dropped.cursor = last
  rw [cursor_of_dropCandidate? hdropped]
  split
  · rw [cursor_deepen]
    rfl
  · rfl

/-- goes over blanks, comments and line breaks behind a question mark; a tab is not allowed -/
def gapBehindKey? (c : Cursor) : Option Cursor :=
  if _h : (overSpaces c).comment.atBreak then gapBehindKey? (overSpaces c).comment.newline
  else if (overSpaces c).comment.rest.head? = some '\t' then none
  else some (overSpaces c).comment
termination_by c.rest.length
decreasing_by
  calc (overSpaces c).comment.newline.rest.length
      < (overSpaces c).comment.rest.length := Cursor.length_newline_lt _h
    _ ≤ (overSpaces c).rest.length := Cursor.length_comment_le _
    _ ≤ c.rest.length := length_overSpaces_le c

theorem length_le_of_gapBehindKey? {c next : Cursor} (h : gapBehindKey? c = some next) :
    next.rest.length ≤ c.rest.length := by
  fun_induction gapBehindKey? c with
  | case1 c hbreak ih =>
    have hspaces := length_overSpaces_le c
    have hcomment := Cursor.length_comment_le (overSpaces c)
    have hnewline := Cursor.length_newline_lt hbreak
    have hnext := ih h
    omega
  | case2 => cases h
  | case3 c hbreak htab =>
    cases h
    exact Nat.le_trans (Cursor.length_comment_le _) (length_overSpaces_le c)

/-- the question mark of a key -/
def key? (s : Scan) : Option Scan := do
  if !s.inFlow && !s.keyAllowed then none
  let s := if s.inFlow then { s with inFlowMapping := true }
    else s.openBlock s.cursor.column s.tokens.length .mappingStart
  let s ← s.dropCandidate?
  let behind := s.cursor.skip 1
  if !(behind.rest.head?.any fun c => c = ' ' || isBreak c) then none
  let next ← gapBehindKey? behind
  some ((s.allowKey (!s.inFlow)).push .key |>.moveTo next)

theorem advances_of_key? (h : s.key? = some s') : s.Advances s' := by
  unfold key? at h
  simp only [Option.bind_eq_bind, Option.bind_none, Option.ite_none_left_eq_some,
    Option.bind_eq_some_iff] at h
  obtain ⟨-, dropped, hdropped, -, next, hnext, h⟩ := h
  have hplace : dropped.cursor = s.cursor := by
    rw [cursor_of_dropCandidate? hdropped]
    split
    · rfl
    · exact cursor_openBlock _ _ _ s
  cases h
  unfold Advances
  rw [← Cursor.length_skip, ← hplace]
  exact length_le_of_gapBehindKey? hnext

/-- the place behind a colon; behind a tab no other key may start -/
def overColon? (c : Cursor) : Option Cursor :=
  let behind := c.skip 1
  let tabbed := behind.rest.head? = some '\t'
  let bare := behind.overBlanks.rest.head?.any fun ch => ch = '-' || Text.isAlphanumeric ch
  if tabbed && !behind.leadingBlanks.contains ' ' && bare then none
  else some (if tabbed then behind.restOfLine else behind)

theorem length_le_of_overColon? {c next : Cursor} (h : overColon? c = some next) :
    next.rest.length ≤ c.rest.length - 1 := by
  obtain ⟨-, h⟩ := Option.ite_none_left_eq_some.mp h
  cases h
  rw [← Cursor.length_skip]
  split
  · exact Nat.le_trans (Cursor.length_restOfLine_le _) (Nat.sub_le _ _)
  · exact Nat.le_refl _

/-- what was marked is a key -/
def takeCandidate (isPair : Bool) (candidate : Candidate) (s : Scan) : Scan :=
  let position := candidate.position
  let s := s.pushAt position .key
  let s := if isPair then s.pushAt position .flowMappingStart else s
  let s := (s.openBlock candidate.start.column position .mappingStart).deepen
  { s with candidates := { candidate with possible := false } :: s.candidates.drop 1 }

theorem cursor_takeCandidate (isPair : Bool) (candidate : Candidate) (s : Scan) :
    (s.takeCandidate isPair candidate).cursor = s.cursor := by
  unfold takeCandidate
  dsimp only
  rw [cursor_deepen, cursor_openBlock]
  split <;> rfl

/-- a value without a key starts at a column -/
def startValue (isPair : Bool) (column : Int) (s : Scan) : Scan :=
  let s := if isPair then s.push .flowMappingStart else s
  (s.openBlock column s.tokens.length .mappingStart).deepen

theorem cursor_startValue (isPair : Bool) (column : Int) (s : Scan) :
    (s.startValue isPair column).cursor = s.cursor := by
  unfold startValue
  dsimp only
  rw [cursor_deepen, cursor_openBlock]
  split <;> rfl

/-- the colon of a value -/
def value? (s : Scan) : Option Scan := do
  let isPair := !s.pairs.isEmpty && !s.inFlowMapping
  let colon := s.cursor
  let behind ← overColon? colon
  let s := if isPair then { s with pairs := true :: s.pairs.drop 1 } else s
  let s := s.moveTo behind
  let candidate ← s.candidates.head?
  if candidate.possible then
    if isPair && candidate.start.line < colon.line then none
    else some (((s.takeCandidate isPair candidate).allowKey false).push .value)
  else if !s.inFlow && !s.keyAllowed then none
  else some (((s.startValue isPair colon.column).allowKey (!s.inFlow)).push .value)

theorem advances_of_value? (h : s.value? = some s') : s.Advances s' := by
  obtain ⟨behind, hbehind, h⟩ := Option.bind_eq_some_iff.mp h
  obtain ⟨candidate, -, h⟩ := Option.bind_eq_some_iff.mp h
  have hle := length_le_of_overColon? hbehind
  split at h
  · obtain ⟨-, h⟩ := Option.ite_none_left_eq_some.mp h
    cases h
    show (takeCandidate _ _ _).cursor.rest.length ≤ _
    rw [cursor_takeCandidate]
    exact hle
  · obtain ⟨-, h⟩ := Option.ite_none_left_eq_some.mp h
    cases h
    show (startValue _ _ _).cursor.rest.length ≤ _
    rw [cursor_startValue]
    exact hle

/-- the sign of an anchor or of a reference to it -/
def name? (isAnchor : Bool) (s : Scan) : Option Scan := do
  let s := s.markCandidate.allowKey false
  let (name, last) ← Yaml.name? s.cursor
  some ((s.push (if isAnchor then .anchor name else .reference name)).moveTo last)

theorem advances_of_name? {isAnchor : Bool} (h : s.name? isAnchor = some s') : s.Advances s' := by
  obtain ⟨⟨name, last⟩, hlast, heq⟩ := Option.bind_eq_some_iff.mp h
  cases heq
  unfold Advances
  rw [← s.place_markCandidate.1]
  exact length_le_of_name? hlast

def tag? (s : Scan) : Option Scan := do
  let s := s.markCandidate.allowKey false
  let (token, last) ← Yaml.tag? s.inFlow s.cursor
  some ((s.push token).moveTo last)

theorem advances_of_tag? (h : s.tag? = some s') : s.Advances s' := by
  obtain ⟨⟨token, last⟩, hlast, heq⟩ := Option.bind_eq_some_iff.mp h
  cases heq
  unfold Advances
  rw [← s.place_markCandidate.1]
  exact length_le_of_tag? hlast

def block? (folded : Bool) (s : Scan) : Option Scan := do
  let s := (s.markCandidate.allowKey true).unwindLoose
  let (text, last) ← Yaml.block? folded s.column (s.cursor.skip 1)
  some ((s.push (.scalar false (String.ofList text))).moveTo last)

theorem advances_of_block? {folded : Bool} (h : s.block? folded = some s') : s.Advances s' := by
  obtain ⟨⟨text, last⟩, hlast, heq⟩ := Option.bind_eq_some_iff.mp h
  have hplace : (s.markCandidate.allowKey true).unwindLoose.cursor = s.cursor := by
    rw [(place_unwindLoose _).1]
    exact s.place_markCandidate.1
  rw [hplace] at hlast
  cases heq
  unfold Advances
  rw [← Cursor.length_skip]
  exact length_le_of_block? hlast

/-- what may follow a scalar in quotes on its line -/
def endsQuoted (inFlow sameLine : Bool) (cs : List Char) : Bool :=
  match cs with
  | [] => true
  | c :: _ =>
    isBreak c || (inFlow && (c = ',' || c = '}' || c = ']')) || (c = ':' && (inFlow || sameLine))

def quoted? (single : Bool) (s : Scan) : Option Scan := do
  let s := s.markCandidate.allowKey false
  let (text, behind) ← Yaml.quoted? single s.column (s.cursor.skip 1)
  let last ← behind.lineEnd?
  if !endsQuoted s.inFlow (s.cursor.line = last.line) last.rest then none
  let s ← (s.moveTo last).toToken?
  let s := { s with adjacentAt := s.cursor.index }
  some (s.push (.scalar false (String.ofList text)))

theorem advances_of_quoted? {single : Bool} (h : s.quoted? single = some s') : s.Advances s' := by
  unfold quoted? at h
  simp only [Option.bind_eq_bind, Option.bind_none, Option.ite_none_left_eq_some,
    Option.bind_eq_some_iff] at h
  obtain ⟨⟨text, behind⟩, hquoted, last, hlast, -, next, hnext, h⟩ := h
  have hplace : (s.markCandidate.allowKey false).cursor = s.cursor := s.place_markCandidate.1
  rw [hplace] at hquoted
  cases h
  unfold Advances
  rw [← Cursor.length_skip]
  calc next.cursor.rest.length
      ≤ last.rest.length := Cursor.length_le_of_toToken? (cursor_of_toToken? hnext)
    _ ≤ behind.rest.length := Cursor.length_le_of_lineEnd? hlast
    _ ≤ (s.cursor.skip 1).rest.length := length_le_of_quoted? hquoted

def plain? (s : Scan) : Option Scan := do
  let s := (s.markCandidate.allowKey false).unwindLoose
  let (text, last) ← Yaml.plain? s.inFlow (s.column + 1) s.cursor
  let s := if last.leading then s.allowKey true else s
  some ((s.push (.scalar true (String.ofList text))).moveTo last)

theorem length_lt_of_plain? (hmarker : s.cursor.atMarker = false)
    (hcomment : s.cursor.rest.head? ≠ some '#')
    (hholds : holdsPlain s.inFlow s.cursor.rest = true) (h : s.plain? = some s') :
    s'.cursor.rest.length < s.cursor.rest.length := by
  obtain ⟨⟨text, last⟩, hlast, heq⟩ := Option.bind_eq_some_iff.mp h
  have hplace := place_unwindLoose (s.markCandidate.allowKey false)
  have hcursor : (s.markCandidate.allowKey false).unwindLoose.cursor = s.cursor :=
    hplace.1.trans s.place_markCandidate.1
  have hflow : (s.markCandidate.allowKey false).unwindLoose.inFlow = s.inFlow :=
    hplace.2.trans s.place_markCandidate.2
  rw [hcursor, hflow] at hlast
  cases heq
  exact Yaml.length_lt_of_plain? hmarker hcomment hholds hlast

/-! ## The next token -/

/-- the signs of flow style -/
def flowSign? (c : Char) (s : Scan) : Option Scan :=
  if c = '[' then s.openFlow? true
  else if c = '{' then s.openFlow? false
  else if c = ']' then s.closeFlow? true
  else if c = '}' then s.closeFlow? false
  else s.comma?

/-- a node, or what stands in front of one -/
def nodeSign? (c : Char) (s : Scan) : Option Scan :=
  if c = '*' then s.name? false
  else if c = '&' then s.name? true
  else if c = '!' then s.tag?
  else if c = '|' && !s.inFlow then s.block? false
  else if c = '>' && !s.inFlow then s.block? true
  else if c = '\'' then s.quoted? true
  else if c = '"' then s.quoted? false
  else if c = '%' || c = '@' || c = '`' then none
  else s.plain?

/-- whether a colon with these characters behind it is the sign of a value -/
def isValueSign (cs : List Char) (s : Scan) : Bool :=
  gapFollows cs || (s.inFlow && (flowFollows cs || s.cursor.index = s.adjacentAt))

/-- the tokens that start with a sign -/
def sign? (s : Scan) : Option Scan :=
  match s.cursor.rest with
  | [] => s.stream?
  | c :: cs =>
    if isFlow c then s.flowSign? c
    else if c = '-' && gapFollows cs then s.dash?
    else if c = '?' && gapFollows cs then s.key?
    else if c = ':' && s.isValueSign cs then s.value?
    else s.nodeSign? c

/-- finds the next token, and those of the layout in front of it -/
def next? (s : Scan) : Option Scan := do
  let s ← s.toToken?
  let s ← s.dropStale?
  let s := s.unwind s.cursor.column
  let first := s.cursor.column = 0
  if s.cursor.atEnd then s.stream?
  else if first && s.cursor.rest.head? = some '%' then s.directive?
  else if s.cursor.atMarker then s.marker?
  else if s.cursor.column < s.column then none
  else s.sign?

theorem Advances.lt (h : s.Advances s') (hne : s.cursor.rest ≠ []) :
    s'.cursor.rest.length < s.cursor.rest.length := by
  have hpos := List.length_pos_iff.mpr hne
  unfold Advances at h
  omega

theorem advances_of_flowSign? {c : Char} (h : s.flowSign? c = some s') : s.Advances s' := by
  unfold flowSign? at h
  split at h
  · exact advances_of_openFlow? h
  split at h
  · exact advances_of_openFlow? h
  split at h
  · exact advances_of_closeFlow? h
  split at h
  · exact advances_of_closeFlow? h
  · exact advances_of_comma? h

/-- a scalar without quotes has to hold the character that it starts with -/
theorem length_lt_of_nodeSign? {c : Char} (hne : s.cursor.rest ≠ [])
    (hmarker : s.cursor.atMarker = false) (hcomment : s.cursor.rest.head? ≠ some '#')
    (hholds : holdsPlain s.inFlow s.cursor.rest = true) (h : s.nodeSign? c = some s') :
    s'.cursor.rest.length < s.cursor.rest.length := by
  unfold nodeSign? at h
  split at h
  · exact (advances_of_name? h).lt hne
  split at h
  · exact (advances_of_name? h).lt hne
  split at h
  · exact (advances_of_tag? h).lt hne
  split at h
  · exact (advances_of_block? h).lt hne
  split at h
  · exact (advances_of_block? h).lt hne
  split at h
  · exact (advances_of_quoted? h).lt hne
  split at h
  · exact (advances_of_quoted? h).lt hne
  split at h
  · cases h
  · exact length_lt_of_plain? hmarker hcomment hholds h

/-- what no sign starts with starts a plain scalar -/
theorem holdsPlain_of_noSign {c : Char} {cs : List Char} (hgap : isGap c = false)
    (hflow : isFlow c = false) (hcolon : ¬ (c = ':' && s.isValueSign cs) = true) :
    holdsPlain s.inFlow (c :: cs) = true := by
  by_cases hc : c = ':'
  · subst hc
    show (!(gapFollows cs || (s.inFlow && flowFollows cs))) = true
    unfold isValueSign at hcolon
    cases hgapFollows : gapFollows cs <;> cases hinFlow : s.inFlow <;>
      cases hflowFollows : flowFollows cs <;> simp_all
  · exact holdsPlain_of_ne cs hgap hflow hc

theorem length_lt_of_sign? (hne : s.cursor.rest ≠ []) (htoken : s.cursor.atToken = true)
    (hmarker : s.cursor.atMarker = false) (h : s.sign? = some s') :
    s'.cursor.rest.length < s.cursor.rest.length := by
  unfold sign? at h
  split at h
  · next hrest => exact absurd hrest hne
  next c cs hrest =>
  rw [Cursor.atToken, hrest] at htoken
  obtain ⟨hgap, hsign⟩ := Bool.and_eq_true_iff.mp htoken
  split at h
  · exact (advances_of_flowSign? h).lt hne
  next hflow =>
  split at h
  · exact (advances_of_dash? h).lt hne
  split at h
  · exact (advances_of_key? h).lt hne
  split at h
  · exact (advances_of_value? h).lt hne
  next hcolon =>
  have hcomment : s.cursor.rest.head? ≠ some '#' := by
    rw [hrest]
    intro heq
    exact of_decide_eq_true hsign (Option.some.inj heq)
  have hholds : holdsPlain s.inFlow s.cursor.rest = true := by
    rw [hrest]
    exact holdsPlain_of_noSign (Bool.not_eq_eq_eq_not.mp hgap) (Bool.eq_false_iff.mpr hflow) hcolon
  exact length_lt_of_nodeSign? hne hmarker hcomment hholds h

/-- the last token is the end of the text, and any other takes a character at least -/
theorem ends_or_advances_of_next? (h : s.next? = some s') :
    s'.tokens.head? = some .streamEnd ∨ s'.cursor.rest.length < s.cursor.rest.length := by
  obtain ⟨here, hhere, h⟩ := Option.bind_eq_some_iff.mp h
  obtain ⟨fresh, hfresh, h⟩ := Option.bind_eq_some_iff.mp h
  have hvisible := cursor_of_toToken? hhere
  have hle := Cursor.length_le_of_toToken? hvisible
  have htoken := Cursor.atToken_of_toToken? hvisible
  -- neither stale candidates nor indentations move the scan
  have hplace : (fresh.unwind fresh.cursor.column).cursor = here.cursor :=
    (cursor_unwind _ _).trans (cursor_of_dropStale? hfresh)
  rw [← hplace] at hle htoken
  dsimp only at h
  generalize fresh.unwind fresh.cursor.column = start at h hle htoken
  split at h
  · exact .inl (streamEnd_of_stream? h)
  next hend =>
  have hne : start.cursor.rest ≠ [] := fun heq => hend (List.isEmpty_iff.mpr heq)
  right
  refine Nat.lt_of_lt_of_le ?_ hle
  split at h
  · exact (advances_of_directive? h).lt hne
  split at h
  · exact (advances_of_marker? h).lt hne
  next hmarker =>
  obtain ⟨-, h⟩ := Option.ite_none_left_eq_some.mp h
  exact length_lt_of_sign? hne htoken (Bool.eq_false_iff.mpr hmarker) h

/-- all tokens from here on, the last one first -/
def rest? (s : Scan) : Option (List Token) :=
  match _hnext : s.next? with
  | none => none
  | some next => if _hend : next.tokens.head? = some .streamEnd then some next.tokens else next.rest?
termination_by s.cursor.rest.length
decreasing_by exact (ends_or_advances_of_next? _hnext).resolve_left _hend

end RightSizing.Yaml.Scan

namespace RightSizing.Yaml

/-- the tokens of a text, which ends with it or with a null character -/
def tokens? (s : String) : Option (List Token) :=
  (Scan.start (s.toList.takeWhile (· ≠ '\x00'))).rest?.map List.reverse

end RightSizing.Yaml
