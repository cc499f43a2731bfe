import RightSizing.Failure
import RightSizing.Settings.Basic

/-!
# Settings of a loader

Settings are read by a loader, which knows files and formats: it finds a file and reads its text,
makes one table of what the text says, and converts the values of the table.  Which settings there
are and what they are without a file is said here, and no more; `Settings.ofFile` takes any loader.
-/

namespace RightSizing

/-- a value of the table, and the name of the file that it came from, where that is still known -/
structure Held where
  value : Value
  origin : Option String

structure Loader where
  /-- the name of the file that a path means, and the members of the file's root table -/
  load : String → Except SettingsError (String × Value.Members)
  /-- what the table made of all members of a file holds under a name -/
  held? : String → Value.Members → String → Option Held
  /-- a count of 64 bits; the key is for the message -/
  toCount : String → Held → Except SettingsError Nat
  /-- a count of 32 bits -/
  narrow : String → Nat → Except SettingsError UInt32
  toText : String → Held → Except SettingsError String
  toLevel : Held → Except SettingsError LogLevel

/-- a duration; null is none -/
def Loader.toDuration (loader : Loader) (key : String) (held : Held) :
    Except SettingsError (Option UInt32) :=
  match held.value with
  | .null => .ok none
  | _ => do
    let count ← loader.toCount key held
    return some (← loader.narrow key count)

namespace Settings

/-- what is held under a name, or the default -/
def member (held? : Option Held) (read : Held → Except SettingsError α) (default : α) :
    Except SettingsError α :=
  match held? with
  | some held => read held
  | none => .ok default

/-- the settings of a table, by what it holds under a name; a name that is no setting is passed
over -/
def ofTable (loader : Loader) (held? : String → Option Held) : Except SettingsError Settings := do
  let level ← member (held? "log_level") loader.toLevel standard.logLevel
  let duration ← member (held? "job_duration_in_seconds")
    (loader.toDuration "job_duration_in_seconds") standard.jobDuration
  let trafficType ← member (held? "default_traffic_type")
    (loader.toText "default_traffic_type") standard.trafficType
  return ⟨level, duration, trafficType⟩

/-- the settings of the file that a path means -/
def ofFile (loader : Loader) (path : String) : Except Failure Settings :=
  Except.mapError Failure.settings do
    let (origin, members) ← loader.load path
    ofTable loader (loader.held? origin members)

end Settings

end RightSizing
