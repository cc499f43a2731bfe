import RightSizing.Number.Text
import RightSizing.Text.Quoted
import RightSizing.Value

/-!
# Why a value is not a record

A `DecodeError` names the first thing that keeps a value from being read.  `Found` is what stood in
the wrong place, as far as the message tells it: scalars are shown, lists and objects only named.

`DecodeError.message` is the one place where the wording stands.
-/

namespace RightSizing

inductive Found where
  | null
  | bool (b : Bool)
  | integer (n : Int)
  | real (x : Binary64)
  | string (s : String)
  | sequence
  | map
deriving DecidableEq, Repr

namespace Found

def ofValue : Value → Found
  | .null => null
  | .bool b => bool b
  | .number (.integer n) => integer n
  | .number (.real x) => real x
  | .string s => string s
  | .array _ => sequence
  | .object _ => map

def text : Found → String
  | null => "null"
  | bool b => "boolean `" ++ (if b then "true" else "false") ++ "`"
  | integer n => "integer `" ++ intText n ++ "`"
  | real x => "floating point `" ++ x.markedText ++ "`"
  | string s => "string " ++ Text.quoted s
  | sequence => "sequence"
  | map => "map"

end Found

inductive DecodeError where
  /-- another kind of value stands there -/
  | invalidType (found : Found) (wanted : String)
  /-- the kind is right, the value is not -/
  | invalidValue (found : Found) (wanted : String)
  | invalidLength (length : Nat) (wanted : String)
  | missingField (name : String)
  | unknownVariant (name : String) (known : List String)
deriving DecidableEq, Repr

namespace DecodeError

def backticked (name : String) : String := "`" ++ name ++ "`"

/-- the choice between some names -/
def choice : List String → String
  | [] => "nothing"
  | [name] => backticked name
  | [name, other] => backticked name ++ " or " ++ backticked other
  | names => "one of " ++ String.intercalate ", " (names.map backticked)

def message : DecodeError → String
  | invalidType found wanted => "invalid type: " ++ found.text ++ ", expected " ++ wanted
  | invalidValue found wanted => "invalid value: " ++ found.text ++ ", expected " ++ wanted
  | invalidLength length wanted =>
    "invalid length " ++ intText length ++ ", expected " ++ wanted
  | missingField name => "missing field " ++ backticked name
  | unknownVariant name known =>
    "unknown variant " ++ backticked name ++ ", expected " ++ choice known

end DecodeError

end RightSizing
