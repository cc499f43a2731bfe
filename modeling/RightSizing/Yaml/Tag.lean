import RightSizing.Json.Reader
import RightSizing.Yaml.Cursor
import RightSizing.Yaml.Token

/-!
# Tags, names and directives

A node may have a tag and an anchor, and a name may stand for the node with that anchor.  In front
of a document there may be directives.

* `Yaml.tag?`        a tag: a handle, and a suffix of characters that are allowed in an address
* `Yaml.name?`       the name of an anchor
* `Yaml.directive?`  a line that says a version, or what a handle stands for; others are passed over
-/

namespace RightSizing.Yaml

/-- the characters of an address -/
def isAddressChar (c : Char) : Bool :=
  c.isAlphanum || "-#;/?:@&=+$,_.!~*'()[]%".toList.contains c

def isSuffixChar (c : Char) : Bool := isAddressChar c && !isFlow c && c ≠ '!'

/-- the characters of a name: all but gaps, signs of flow style and the byte order mark -/
def isNameChar (c : Char) : Bool := !isGap c && !isFlow c && c ≠ '\ufeff'

/-- how many bytes a character has by its first byte -/
def byteCount? (byte : Nat) : Option Nat :=
  if byte < 0x80 then some 1
  else if byte < 0xc0 then none
  else if byte < 0xe0 then some 2
  else if byte < 0xf0 then some 3
  else if byte < 0xf8 then some 4
  else none

/-- the characters up to one that is not allowed, and the rest; a byte may be written in two
hexadecimal digits behind a percent sign, and the bytes of a character make one number.  `pending`
holds how many bytes are left of a character and the number so far -/
def address? (allowed : Char → Bool) (pending : Option (Nat × Nat)) :
    List Char → Option (List Char × List Char)
  | '%' :: a :: b :: cs => do
    let byte ← Json.hexNumber? [a, b]
    let (left, code) ← match pending with
      | some (left, code) =>
        if byte / 0x40 = 2 then some (left - 1, 0x100 * code + byte) else none
      | none => (byteCount? byte).map fun count => (count - 1, byte)
    if left = 0 then
      let c ← Text.ofCode? code
      let (text, rest) ← address? allowed none cs
      some (c :: text, rest)
    else address? allowed (some (left, code)) cs
  | c :: cs =>
    if pending.isSome || c = '%' then none
    else if allowed c then (address? allowed none cs).map fun (text, rest) => (c :: text, rest)
    else some ([], c :: cs)
  | [] => if pending.isSome then none else some ([], [])

/-! ## Tags and names -/

/-- the characters of a handle behind its exclamation mark, a second one at their end -/
def handleRun (cs : List Char) : List Char × List Char :=
  let (run, rest) := cs.span Text.isWordChar
  match rest with
  | '!' :: rest => (run ++ ['!'], rest)
  | rest => (run, rest)

/-- a tag behind its exclamation mark: handle, suffix and rest -/
def tagParts? (cs : List Char) : Option (List Char × List Char × List Char) := do
  match cs with
  | '<' :: cs =>
    let (address, '>' :: rest) ← address? isAddressChar none cs | none
    some ([], address, rest)
  | cs =>
    let (run, rest) := handleRun cs
    let (suffix, rest) ← address? isSuffixChar none rest
    if run.getLast? = some '!' then
      if suffix.isEmpty then none else some ('!' :: run, suffix, rest)
    else if (run ++ suffix).isEmpty then some ([], ['!'], rest)
    else some (['!'], run ++ suffix, rest)

def tag? (inFlow : Bool) (c : Cursor) : Option (Token × Cursor) := do
  let behind := c.skip 1
  let (handle, suffix, rest) ← tagParts? behind.rest
  if gapFollows rest || (inFlow && flowFollows rest) then
    some (.tag (String.ofList handle) (String.ofList suffix), behind.upTo rest)
  else none

theorem length_le_of_tag? {inFlow : Bool} {token : Token} {c last : Cursor}
    (h : tag? inFlow c = some (token, last)) : last.rest.length ≤ c.rest.length - 1 := by
  unfold tag? at h
  simp only [Option.bind_eq_bind, Option.bind_eq_some_iff, Option.ite_none_right_eq_some] at h
  obtain ⟨parts, -, -, h⟩ := h
  cases h
  rw [← Cursor.length_skip]
  exact Cursor.length_upTo_le _ _

/-- a name behind its sign -/
def name? (c : Cursor) : Option (String × Cursor) :=
  let behind := c.skip 1
  match behind.rest.span isNameChar with
  | ([], _) => none
  | (name, rest) => some (String.ofList name, behind.upTo rest)

theorem length_le_of_name? {name : String} {c last : Cursor} (h : name? c = some (name, last)) :
    last.rest.length ≤ c.rest.length - 1 := by
  unfold name? at h
  dsimp only at h
  split at h
  · cases h
  · cases h
    rw [← Cursor.length_skip]
    exact Cursor.length_upTo_le _ _

/-! ## Directives -/

/-- a number of nine digits at most, and the rest -/
def versionNumber? (cs : List Char) : Option (List Char) :=
  let (digits, rest) := cs.span Char.isDigit
  if digits.isEmpty || 9 < digits.length then none else some rest

/-- what is left behind the two numbers of a version -/
def version? (cs : List Char) : Option (List Char) := do
  let '.' :: cs ← versionNumber? (cs.dropWhile Text.isBlank) | none
  versionNumber? cs

/-- a handle and what it stands for -/
def handleMeaning? (cs : List Char) : Option (Token × List Char) := do
  let '!' :: cs := cs.dropWhile Text.isBlank | none
  let (run, cs) := handleRun cs
  if !run.isEmpty ∧ run.getLast? ≠ some '!' then none
  let cs := cs.dropWhile Text.isBlank
  let (head, cs) ← match cs with
    | '!' :: cs => some (['!'], cs)
    | c :: cs => if isSuffixChar c then some ([], c :: cs) else none
    | [] => none
  let (address, rest) ← address? isAddressChar none cs
  if !gapFollows rest then none
  some (.tagHandle (String.ofList ('!' :: run)) (String.ofList (head ++ address)), rest)

/-- what a directive says, by its word and the rest of its line -/
def meaning? (word rest : List Char) : Option (Token × List Char) :=
  match String.ofList word with
  | "YAML" => (version? rest).map (Token.version, ·)
  | "TAG" => handleMeaning? rest
  | _ => some (Token.tagHandle "" "", rest.dropWhile fun ch => !isBreak ch)

def directive? (c : Cursor) : Option (Token × Cursor) := do
  let behind := c.skip 1
  let (word, rest) := behind.rest.span Text.isWordChar
  if word.isEmpty || !gapFollows rest then none
  let (token, rest) ← meaning? word rest
  let last ← (behind.upTo rest).lineEnd?
  if last.atLineEnd then some (token, last.newline) else none

theorem length_le_of_directive? {token : Token} {c last : Cursor}
    (h : directive? c = some (token, last)) : last.rest.length ≤ c.rest.length - 1 := by
  unfold directive? at h
  simp only [Option.bind_eq_bind, Option.bind_none, Option.ite_none_left_eq_some,
    Option.bind_eq_some_iff, Option.ite_none_right_eq_some] at h
  obtain ⟨-, ⟨token', rest⟩, -, lineEnd, hend, -, h⟩ := h
  cases h
  calc lineEnd.newline.rest.length
      ≤ lineEnd.rest.length := Cursor.length_newline_le _
    _ ≤ ((c.skip 1).upTo rest).rest.length := Cursor.length_le_of_lineEnd? hend
    _ ≤ (c.skip 1).rest.length := Cursor.length_upTo_le _ _
    _ = c.rest.length - 1 := Cursor.length_skip 1 c

end RightSizing.Yaml
