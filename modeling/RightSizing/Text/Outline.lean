import RightSizing.Text.Quoted

/-!
# Outlines: named records as text

An `Outline` is the shape in which a value is shown to a reader: a plain word, a value wrapped by a
name as in `Some(…)`, or a record with named fields.  It is written on one line (`Outline.compact`)
or with every field and every wrapped value on a line of its own, four blanks deeper than what
holds it (`Outline.spread`).
-/

namespace RightSizing.Text

inductive Outline where
  | word (text : List Char)
  | wrap (name : List Char) (inner : Outline)
  | record (name : List Char) (fields : List (List Char × Outline))

namespace Outline

def ofString (s : String) : Outline := word (quote s.toList)

def ofBool (b : Bool) : Outline := word (if b then "true".toList else "false".toList)

def ofOption : Option String → Outline
  | none => word "None".toList
  | some s => wrap "Some".toList (ofString s)

mutual

def compact : Outline → List Char
  | word text => text
  | wrap name inner => name ++ '(' :: (compact inner ++ [')'])
  | record name [] => name
  | record name (field :: fields) =>
    name ++ ' ' :: '{' :: ' ' :: (compactFields (field :: fields) ++ [' ', '}'])

def compactFields : List (List Char × Outline) → List Char
  | [] => []
  | [(name, value)] => name ++ ':' :: ' ' :: compact value
  | (name, value) :: field :: fields =>
    name ++ ':' :: ' ' :: (compact value ++ ',' :: ' ' :: compactFields (field :: fields))

end

def newLine (depth : Nat) : List Char := '\n' :: List.replicate (4 * depth) ' '

mutual

def spread (depth : Nat) : Outline → List Char
  | word text => text
  | wrap name inner =>
    name ++ '(' :: (newLine (depth + 1) ++ spread (depth + 1) inner ++ ',' ::
      (newLine depth ++ [')']))
  | record name [] => name
  | record name (field :: fields) =>
    name ++ ' ' :: '{' :: (spreadFields (depth + 1) (field :: fields) ++ newLine depth ++ ['}'])

def spreadFields (depth : Nat) : List (List Char × Outline) → List Char
  | [] => []
  | (name, value) :: fields =>
    newLine depth ++ name ++ ':' :: ' ' :: (spread depth value ++ ',' :: spreadFields depth fields)

end

end Outline

end RightSizing.Text
