import RightSizing.Number.Text
import RightSizing.Value

/-!
# Writing JSON

`Json.write` gives the text of a value without blanks.  Characters outside ASCII stand for
themselves; the quote, the backslash and the characters below the blank are escaped.
-/

namespace RightSizing.Json

def writeChar (c : Char) : List Char :=
  if c = '"' then ['\\', '"']
  else if c = '\\' then ['\\', '\\']
  else if c = '\x08' then ['\\', 'b']
  else if c = '\x0c' then ['\\', 'f']
  else if c = '\n' then ['\\', 'n']
  else if c = '\r' then ['\\', 'r']
  else if c = '\t' then ['\\', 't']
  else if c.toNat < 0x20 then
    let ds := Nat.toDigits 16 c.toNat
    '\\' :: 'u' :: (List.replicate (4 - ds.length) '0' ++ ds)
  else [c]

def writeString (s : String) : List Char := '"' :: (s.toList.flatMap writeChar ++ ['"'])

def writeNumber : Number → List Char
  | .integer n => (intText n).toList
  | .real x => x.markedText.toList

mutual

def writeValue : Value → List Char
  | .null => "null".toList
  | .bool b => if b then "true".toList else "false".toList
  | .number n => writeNumber n
  | .string s => writeString s
  | .array items => '[' :: (writeItems items ++ [']'])
  | .object members => '{' :: (writeMembers members ++ ['}'])

def writeItems : List Value → List Char
  | [] => []
  | [x] => writeValue x
  | x :: y :: xs => writeValue x ++ ',' :: writeItems (y :: xs)

def writeMembers : Value.Members → List Char
  | [] => []
  | [(name, x)] => writeString name ++ ':' :: writeValue x
  | (name, x) :: m :: ms =>
    writeString name ++ ':' :: (writeValue x ++ ',' :: writeMembers (m :: ms))

end

def write (x : Value) : String := String.ofList (writeValue x)

end RightSizing.Json
