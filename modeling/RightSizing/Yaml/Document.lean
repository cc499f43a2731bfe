import RightSizing.Yaml.Node
import RightSizing.Yaml.Tokens

/-!
# Reading YAML

`Yaml.read?` gives the value of a YAML text with one document, or nothing if it is none; a text
without a document is an empty mapping.  The tokens of the text are found first, then the node of
the document (`Yaml.document?`), and then its value.

A reader of nodes works on a `Source`: the tokens that are left and the anchors that were seen.  An
anchor names the node behind it from its sign on; a reference inside of that node means nothing yet.

The readers take fuel, of which four times the number of tokens is enough: at least every fourth
step takes a token.
-/

namespace RightSizing.Yaml

structure Source where
  tokens : List Token
  /-- what handles of tags stand for -/
  handles : List (String × String)
  /-- names and numbers of anchors, the last one first -/
  anchors : List (String × Nat)
  /-- the nodes of the anchors with these numbers -/
  nodes : List (Nat × Node)

abbrev Reading := StateT Source Option

namespace Reading

/-- the next token, which is left there -/
def peek : Reading Token := do return (← get).tokens.headD .streamEnd

def skip : Reading Unit := modify fun s => { s with tokens := s.tokens.drop 1 }

/-- whether the next token is one of these, which is left there -/
def sees (tokens : List Token) : Reading Bool := do return tokens.contains (← peek)

def anchor (name : String) : Reading Nat := do
  let s ← get
  let number := s.anchors.length
  set { s with anchors := (name, number) :: s.anchors }
  return number

/-- gives an anchor its node -/
def bind (number : Option Nat) (node : Node) : Reading Unit :=
  match number with
  | some n => modify fun s => { s with nodes := (n, node) :: s.nodes }
  | none => return ()

/-- the node that a name stands for -/
def follow (name : String) : Reading Node := do
  let s ← get
  match s.anchors.lookup name with
  | some number => return (s.nodes.lookup number).getD .missing
  | none => failure

/-- the address that the kinds of scalars begin with -/
def kindAddress : String := "tag:yaml.org,2002:"

/-- what a handle stands for, by the directives or by itself -/
def meaning (handle : String) : Reading String := do
  let cs := handle.toList
  match (← get).handles.lookup handle with
  | some lead => return lead
  | none =>
    if handle = "!!" then return kindAddress
    else if 2 ≤ cs.length ∧ cs.getLast? = some '!' then failure
    else return handle

/-- the anchor and the tag of a node, each of which may come first -/
def properties : Reading (Option Nat × Option (String × String)) := do
  match ← peek with
  | .anchor name =>
    skip
    let number ← anchor name
    match ← peek with
    | .tag handle suffix =>
      skip
      return (some number, some (← meaning handle, suffix))
    | _ => return (some number, none)
  | .tag handle suffix =>
    skip
    let tag := (← meaning handle, suffix)
    match ← peek with
    | .anchor name =>
      skip
      return (some (← anchor name), some tag)
    | _ => return (none, some tag)
  | _ => return (none, none)

/-- the node of a scalar -/
def scalarNode (plain : Bool) (tag : Option (String × String)) (text : String) : Node :=
  match plain, tag with
  | false, _ => .scalar (.text text)
  | true, none => .scalar (.ofPlain text)
  | true, some (lead, suffix) =>
    if lead = kindAddress then
      match Scalar.ofKind? suffix text with
      | some s => .scalar s
      | none => .missing
    else .scalar (.text text)

/-! ## Nodes -/

mutual

/-- a node; `block` allows collections in block style, and `dashes` a list without a start -/
def node (block dashes : Bool) : Nat → Reading Node
  | 0 => failure
  | fuel + 1 => do
    match ← peek with
    | .reference name =>
      skip
      follow name
    | _ =>
      let (number, tag) ← properties
      let content ← match ← peek with
        | .scalar plain text =>
          skip
          pure (scalarNode plain tag text)
        | .flowListStart =>
          skip
          pure (.list (← flowItems true fuel))
        | .flowMappingStart =>
          skip
          (Node.ofEntries? (← flowEntries true fuel) : Option Node)
        | .blockEntry => if dashes then pure (.list (← dashedItems fuel)) else empty number tag
        | .listStart =>
          if block then
            skip
            pure (.list (← blockItems fuel))
          else empty number tag
        | .mappingStart =>
          if block then
            skip
            (Node.ofEntries? (← blockEntries fuel) : Option Node)
          else empty number tag
        | _ => empty number tag
      bind number content
      return content
where
  /-- an anchor or a tag may stand alone -/
  empty (number : Option Nat) (tag : Option (String × String)) : Reading Node :=
    if number.isSome || tag.isSome then pure (scalarNode true tag "") else failure

/-- a node in block style, or null in front of one of the given tokens -/
def nodeUnless (ends : List Token) (block dashes : Bool) : Nat → Reading Node
  | 0 => failure
  | fuel + 1 => do if ← sees ends then pure .null else node block dashes fuel

/-- the items behind the start of a list -/
def blockItems : Nat → Reading (List Node)
  | 0 => failure
  | fuel + 1 => do
    match ← peek with
    | .blockEnd =>
      skip
      return []
    | .blockEntry =>
      skip
      let item ← nodeUnless [.blockEntry, .blockEnd] true false fuel
      return item :: (← blockItems fuel)
    | _ => failure

/-- the items of a list without a start, which has no end either -/
def dashedItems : Nat → Reading (List Node)
  | 0 => failure
  | fuel + 1 => do
    match ← peek with
    | .blockEntry =>
      skip
      let item ← nodeUnless [.blockEntry, .key, .value, .blockEnd] true false fuel
      return item :: (← dashedItems fuel)
    | _ => return []

/-- the keys and values behind the start of a mapping, in turn -/
def blockEntries : Nat → Reading (List Node)
  | 0 => failure
  | fuel + 1 => do
    match ← peek with
    | .blockEnd =>
      skip
      return []
    | .key =>
      skip
      let key ← nodeUnless [.key, .value, .blockEnd] true true fuel
      let value ← blockValue fuel
      return key :: value :: (← blockEntries fuel)
    | .value =>
      let value ← blockValue fuel
      return .null :: value :: (← blockEntries fuel)
    | _ => failure

def blockValue : Nat → Reading Node
  | 0 => failure
  | fuel + 1 => do
    if ← sees [.value] then
      skip
      nodeUnless [.key, .value, .blockEnd] true true fuel
    else pure .null

/-- the items behind the start of a list in flow style; all but the first stand behind a comma -/
def flowItems (first : Bool) : Nat → Reading (List Node)
  | 0 => failure
  | fuel + 1 => do
    if !first && (← sees [.flowEntry]) then skip
    else if !first && !(← sees [.flowListEnd]) then failure
    match ← peek with
    | .flowListEnd =>
      skip
      return []
    | .key =>
      skip
      let item ← flowPair fuel
      return item :: (← flowItems false fuel)
    | _ =>
      let item ← node false false fuel
      return item :: (← flowItems false fuel)

/-- a mapping of one key behind its sign; without a key the token in its place is passed over -/
def flowPair : Nat → Reading Node
  | 0 => failure
  | fuel + 1 => do
    let key ← if ← sees [.value, .flowEntry, .flowListEnd] then
        skip
        pure .null
      else node false false fuel
    let value ← if ← sees [.value] then
        skip
        nodeUnless [.flowEntry, .flowListEnd] false false fuel
      else pure .null
    (Node.ofEntries? [key, value] : Option Node)

/-- the keys and values behind the start of a mapping in flow style -/
def flowEntries (first : Bool) : Nat → Reading (List Node)
  | 0 => failure
  | fuel + 1 => do
    if ← sees [.flowMappingEnd] then
      skip
      return []
    if !first then
      if ← sees [.flowEntry] then skip else failure
    match ← peek with
    | .flowMappingEnd =>
      skip
      return []
    | .key =>
      skip
      let key ← nodeUnless [.value, .flowEntry, .flowMappingEnd] false false fuel
      let value ← flowValue fuel
      return key :: value :: (← flowEntries false fuel)
    | .value =>
      let value ← flowValue fuel
      return .null :: value :: (← flowEntries false fuel)
    | _ =>
      let key ← node false false fuel
      return key :: .null :: (← flowEntries false fuel)

def flowValue : Nat → Reading Node
  | 0 => failure
  | fuel + 1 => do
    if ← sees [.value] then
      skip
      nodeUnless [.flowEntry, .flowMappingEnd] false false fuel
    else pure .null

end

end Reading

/-! ## The document -/

/-- passes over directives; the last one alone says what a handle stands for, and there is one
version at most -/
def skipDirectives? (versioned : Bool) (handles : List (String × String)) :
    List Token → Option (List (String × String) × List Token)
  | .version :: tokens => if versioned then none else skipDirectives? true [] tokens
  | .tagHandle handle lead :: tokens => skipDirectives? versioned [(handle, lead)] tokens
  | tokens => some (handles, tokens)

/-- the node of the only document, or nothing at all in a text without a document -/
def document? (tokens : List Token) : Option (Option Node) := do
  let isEnd := fun token => token = Token.documentEnd
  let tokens := tokens.dropWhile isEnd
  if tokens = [.streamEnd] then return none
  let (handles, inner) ← skipDirectives? false [] tokens
  let isStart := inner.head? = some .documentStart
  if !isStart && inner.length ≠ tokens.length then none
  let inner := if isStart then inner.drop 1 else inner
  let empty := isStart &&
    [Token.documentStart, .documentEnd, .streamEnd].contains (inner.headD .streamEnd)
  let (node, source) ←
    if empty then some (Node.null, ⟨inner, [], [], []⟩)
    else (Reading.node true false (4 * inner.length + 4)).run ⟨inner, handles, [], []⟩
  if source.tokens.dropWhile isEnd = [.streamEnd] then return some node else none

def read? (s : String) : Option Value := do
  match ← document? (← tokens? s) with
  | some node => node.value?
  | none => some (.object [])

end RightSizing.Yaml
