import RightSizing.Failure
import RightSizing.Job.Document
import RightSizing.Recommendation.Outcome
import RightSizing.Telemetry.Counter

/-!
# The service behind a session

A session talks to the recommendation service, and a factory builds sessions.  Both are named
(`σ`, `φ`) and may answer each call as they like: a `Service` gives the answer of a party to a call
by the calls that were made to this party before.  Since that history grows with every call, any
sequence of answers is the work of some service; and since it holds no calls to others, parties do
not disturb each other.

A run leaves a trace of `Effect`s, the calls with their answers among the notes for observers, in
the order in which they happened.
-/

namespace RightSizing

inductive Party (σ φ : Type) where
  | session (s : σ)
  | factory (f : φ)
deriving DecidableEq, Repr

/-- a call and its answer -/
inductive Call (σ φ : Type) where
  /-- to build a session -/
  | build (factory : φ) (answer : Except Complaint σ)
  /-- to create a job; the answer is its name -/
  | create (session : σ) (document : JobDocument) (answer : Except Complaint String)
  /-- to wait until a job is over; the answer describes it -/
  | wait (session : σ) (jobName : String) (level : LogLevel) (answer : Except Complaint JobResults)

inductive Effect (σ φ : Type) where
  | call (c : Call σ φ)
  | note (n : Note)

section
variable {σ φ : Type}

def Call.party : Call σ φ → Party σ φ
  | build f _ => .factory f
  | create s _ _ | wait s _ _ _ => .session s

def Effect.call? : Effect σ φ → Option (Call σ φ)
  | call c => some c
  | note _ => none

def Effect.note? : Effect σ φ → Option Note
  | call _ => none
  | note n => some n

/-- the calls of a trace, in order -/
def callsOf (trace : List (Effect σ φ)) : List (Call σ φ) := trace.filterMap Effect.call?

/-- the notes of a trace, in order -/
def notesOf (trace : List (Effect σ φ)) : List Note := trace.filterMap Effect.note?

theorem callsOf_append (trace more : List (Effect σ φ)) :
    callsOf (trace ++ more) = callsOf trace ++ callsOf more := by
  simp [callsOf, List.filterMap_append]

theorem notesOf_append (trace more : List (Effect σ φ)) :
    notesOf (trace ++ more) = notesOf trace ++ notesOf more := by
  simp [notesOf, List.filterMap_append]

/-- the calls made to one party -/
def callsTo [DecidableEq σ] [DecidableEq φ] (party : Party σ φ) (calls : List (Call σ φ)) :
    List (Call σ φ) :=
  calls.filter fun c => c.party = party

end

/-- the answers of sessions and factories, by the calls made to each of them before -/
structure Service (σ φ : Type) where
  build : φ → List (Call σ φ) → Except Complaint σ
  create : σ → List (Call σ φ) → JobDocument → Except Complaint String
  wait : σ → List (Call σ φ) → String → LogLevel → Except Complaint JobResults

end RightSizing
