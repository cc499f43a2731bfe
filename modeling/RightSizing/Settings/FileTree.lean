import RightSizing.Json.Reader
import RightSizing.Settings.Conversion
import RightSizing.Settings.KeyPath
import RightSizing.Toml.Reader
import RightSizing.Yaml.Document

/-!
# A loader over a tree of files

`FileTree.loader` reads settings from a tree of files held in memory.  It merges the members of a
file by `Settings.merge` and converts them by `Settings.toCount` and the like.

A path from a slash on starts at the root, any other path in the directory of the tree that one is
in.  Paths are compared part by part, empty parts and dots left out; two dots lead back to the
directory around, if there is the directory that they leave (`FileTree.resolve?`).  The extension
names the format, in lower case, and a path that is no file is completed by the known extensions in
turn.  The loader may know any formats; those of `FileFormat.documented` are promised.
-/

namespace RightSizing

/-- a format by one of its extensions; `read?` gives the value of a text -/
structure FileFormat where
  extension : String
  read? : String → Option Value

namespace FileFormat

def toml : FileFormat := ⟨"toml", Toml.read?⟩

def json : FileFormat := ⟨"json", Json.read?⟩

def yaml : FileFormat := ⟨"yaml", Yaml.read?⟩

def yml : FileFormat := ⟨"yml", Yaml.read?⟩

def documented : List FileFormat := [toml, json, yaml, yml]

end FileFormat

/-- files with their places, part by part from the root -/
structure FileTree where
  /-- the directory that one is in -/
  here : List String
  files : List (List String × String)

namespace FileTree

/-- the characters between slashes -/
def splitSlash (cs : List Char) : List (List Char) :=
  cs.foldr (fun c parts => if c = '/' then [] :: parts else (c :: parts.headD []) :: parts.tail)
    [[]]

def isIdle (part : String) : Bool := part = "" || part = "."

/-- the parts of a path, without those that lead nowhere -/
def parts (path : String) : List String :=
  ((splitSlash path.toList).map String.ofList).filter fun part => !isIdle part

/-- a path whose last part leads nowhere names a directory -/
def namesDirectory (path : String) : Bool :=
  ((splitSlash path.toList).getLast?.map String.ofList).any isIdle

def isAbsolute (path : String) : Bool := path.toList.head? = some '/'

variable (tree : FileTree)

/-- where a path leads, two dots still in it -/
def place (path : String) : List String :=
  if isAbsolute path then parts path else tree.here ++ parts path

/-- the path from the root -/
def fullPath (path : String) : String :=
  if isAbsolute path then path
  else String.join (tree.here.map ("/" ++ ·)) ++ "/" ++ path

/-- whether one is in there or there are files below -/
def isDirectory (place : List String) : Bool :=
  place.isPrefixOf tree.here ||
    tree.files.any fun (file, _) => place.length < file.length && place.isPrefixOf file

/-- the place without its dots; `walked` is the way so far, the last part first -/
def resolve? (walked : List String) : List String → Option (List String)
  | [] => some walked.reverse
  | part :: rest =>
    if part = ".." then
      if tree.isDirectory walked.reverse then resolve? walked.tail rest else none
    else resolve? (part :: walked) rest

def textAt? (place : List String) : Option String := do
  let place ← tree.resolve? [] place
  tree.files.lookup place

/-- the way from one place to another, up first -/
def wayFrom : List String → List String → List String
  | part :: start, part' :: goal =>
    if part = part' then wayFrom start goal
    else List.replicate (start.length + 1) ".." ++ part' :: goal
  | start, goal => List.replicate start.length ".." ++ goal

/-- a place as it is shown, from where one is -/
def shown (place : List String) : String := String.intercalate "/" (wayFrom tree.here place)

/-! ## Finding a file -/

/-- the characters behind the last dot, unless the name starts there -/
def extension? (name : String) : Option String :=
  match (name.toList.reverse.span (· ≠ '.')) with
  | (_, []) | (_, [_]) => none
  | (behind, _) => some (String.ofList behind.reverse)

/-- the file at a place without its extension: its place, its format and its text -/
def complete? (formats : List FileFormat) (place : List String) :
    Option (List String × FileFormat × String) := do
  let name ← place.getLast?
  if name = ".." then none
  formats.findSome? fun format =>
    let candidate := place.dropLast ++ [name ++ "." ++ format.extension]
    (tree.textAt? candidate).map fun text => (candidate, format, text)

/-- the place of the file that a path means, its format and its text -/
def locate (formats : List FileFormat) (path : String) :
    Except SettingsError (List String × FileFormat × String) :=
  let place := tree.place path
  let exact := if namesDirectory path then none else tree.textAt? place
  match exact with
  | some text =>
    let extension? := place.getLast?.bind extension?
    match formats.find? fun format => some format.extension = extension? with
    | some format => .ok (place, format, text)
    | none => .error (.unknownFormat (tree.fullPath path))
  | none =>
    match tree.complete? formats place with
    | some found => .ok found
    | none => .error (.fileNotFound path)

/-! ## The loader -/

/-- the name of the file and the members of its root, which has to be a table -/
def load (formats : List FileFormat) (path : String) :
    Except SettingsError (String × Value.Members) := do
  let (place, format, text) ← tree.locate formats path
  match format.read? text with
  | some (.object members) => .ok (tree.shown place, members)
  | _ => .error (.malformedFile (tree.shown place))

end FileTree

/-- what is made of parts, as a table always is, has lost its origin -/
def Settings.held? (origin : String) (members : Value.Members) (name : String) : Option Held :=
  (Value.find? (merge members) name).map fun value =>
    let origin := match value with
      | .object _ => none
      | _ => if name ∈ madeOfParts members then none else some origin
    ⟨value, origin⟩

def FileTree.loader (tree : FileTree) (formats : List FileFormat) : Loader where
  load := tree.load formats
  held? := Settings.held?
  toCount := Settings.toCount
  narrow := Settings.narrow
  toText := Settings.toText
  toLevel := Settings.toLevel

end RightSizing
