import RightSizing.Number.Text
import RightSizing.Text.Quoted

/-!
# What can be wrong with a settings file

A file may be missing, of no known format, or no text of its format; and a setting may have a value
that cannot be converted.  `SettingsError.message` is the one place where the wording stands.
-/

namespace RightSizing

/-- a value that could not be converted, as far as the message shows it -/
inductive Unfit where
  | signed (n : Int)
  | unsigned (n : Nat)
  | string (s : String)
  | unit
  | sequence
  | map
deriving DecidableEq, Repr

def Unfit.text : Unfit → String
  | signed n => "64-bit integer `" ++ intText n ++ "`"
  | unsigned n => "64-bit unsigned integer `" ++ intText n ++ "`"
  | string s => "string " ++ Text.quoted s
  | unit => "unit value"
  | sequence => "sequence"
  | map => "map"

inductive SettingsError where
  /-- a setting cannot be converted; `origin` is the file, where the value still knows it -/
  | unfit (found : Unfit) (wanted : String) (key : String) (origin : Option String)
  /-- no log level of that name -/
  | unknownLevel (name : String)
  /-- a log level that is neither a name nor a table with one name -/
  | shapelessLevel
  | malformedFile (path : String)
  | unknownFormat (path : String)
  | fileNotFound (path : String)
  | note (text : String)
deriving DecidableEq, Repr

def SettingsError.message : SettingsError → String
  | unfit found wanted key origin =>
    "invalid type: " ++ found.text ++ ", expected " ++ wanted ++ " for key `" ++ key ++ "`" ++
      match origin with
      | some path => " in " ++ path
      | none => ""
  | unknownLevel name => "enum LogLevel does not have variant constructor " ++ name
  | shapelessLevel =>
    "value of enum LogLevel should be represented by either string or table with exactly one key"
  | malformedFile path => "malformed file " ++ path
  | unknownFormat path =>
    "configuration file \"" ++ path ++ "\" is not of a registered file format"
  | fileNotFound path => "configuration file \"" ++ path ++ "\" not found"
  | note text => text

end RightSizing
