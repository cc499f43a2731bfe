import RightSizing.Record.Layout

/-!
# Kinds of jobs and of progress output

A job is a default one, whose load test the service designs, or an advanced one, whose load test the
caller describes (`JobType`).  While a session waits for a job it prints its progress or keeps quiet
(`LogLevel`).  Both are written by their names.
-/

namespace RightSizing

inductive JobType where
  | default
  | advanced
deriving DecidableEq, Repr

namespace JobType

def name : JobType → String
  | default => "Default"
  | advanced => "Advanced"

def all : List JobType := [default, advanced]

def named : List (String × JobType) := all.map fun t => (t.name, t)

def codec : Codec JobType := .choice named name

end JobType

inductive LogLevel where
  | verbose
  | quiet
deriving DecidableEq, Repr

namespace LogLevel

def name : LogLevel → String
  | verbose => "Verbose"
  | quiet => "Quiet"

def all : List LogLevel := [verbose, quiet]

def named : List (String × LogLevel) := all.map fun l => (l.name, l)

def codec : Codec LogLevel := .choice named name

end LogLevel

end RightSizing
