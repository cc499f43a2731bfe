import RightSizing.Telemetry.Event

/-!
# Counters

A `Note` is a single thing left behind for an observer: an event, a move of a counter, or an
observation of how long a job was waited for.  Counters hold 64 bits and wrap around, so the move
over a list of notes is a sum of words (`moved`), and the moves over two lists in a row add up.

`families` describes the counters and the histogram as they are exported, sorted by name.
-/

namespace RightSizing

inductive Counter where
  | submitted (jobType : JobType)
  | failures
  | received
  | override (reason : String)
deriving DecidableEq, Repr

inductive Note where
  | event (e : Event)
  | count (counter : Counter) (amount : UInt64)
  | observeWait (seconds : Binary64)
deriving DecidableEq, Repr

namespace Note

def event? : Note → Option Event
  | event e => some e
  | _ => none

/-- by how much a note moves a counter -/
def move (counter : Counter) : Note → UInt64
  | count c amount => if c = counter then amount else 0
  | _ => 0

/-- the seconds of an observation -/
def wait? : Note → Option Binary64
  | observeWait seconds => some seconds
  | _ => none

end Note

/-- the events among some notes, in order -/
def eventsOf (notes : List Note) : List Event := notes.filterMap Note.event?

/-- the move of a counter over some notes -/
def moved (counter : Counter) (notes : List Note) : UInt64 :=
  (notes.map (Note.move counter)).foldr (· + ·) 0

/-- the observations of waits among some notes -/
def waitsOf (notes : List Note) : List Binary64 := notes.filterMap Note.wait?

@[simp] theorem moved_nil (counter : Counter) : moved counter [] = 0 := rfl

theorem moved_cons (counter : Counter) (note : Note) (notes : List Note) :
    moved counter (note :: notes) = note.move counter + moved counter notes := rfl

theorem moved_append (counter : Counter) (notes more : List Note) :
    moved counter (notes ++ more) = moved counter notes + moved counter more := by
  induction notes with
  | nil => simp
  | cons note notes ih => rw [List.cons_append, moved_cons, moved_cons, ih, UInt64.add_assoc]

theorem eventsOf_append (notes more : List Note) :
    eventsOf (notes ++ more) = eventsOf notes ++ eventsOf more := by
  simp [eventsOf, List.filterMap_append]

theorem waitsOf_append (notes more : List Note) :
    waitsOf (notes ++ more) = waitsOf notes ++ waitsOf more := by
  simp [waitsOf, List.filterMap_append]

/-- the upper bounds of its buckets, in seconds -/
def waitBounds : List Nat := [60, 300, 600, 1200, 1800, 3600, 7200, 14400]

/-- the buckets are cumulative: an observation raises all whose bound it does not exceed -/
def raisedBounds (seconds : Binary64) : List Nat := waitBounds.filter seconds.atMost

inductive FamilyKind where
  | counter
  | histogram
deriving DecidableEq, Repr

def FamilyKind.name : FamilyKind → String
  | counter => "COUNTER"
  | histogram => "HISTOGRAM"

structure Family where
  name : String
  help : String
  kind : FamilyKind
  labels : List String
  bounds : List Nat
deriving DecidableEq, Repr

def families : List Family :=
  [⟨"inference_recommender_deploy_overrides_total",
    "Deploys that ignored a recommendation, by overriding argument", .counter, ["reason"], []⟩,
   ⟨"inference_recommender_job_failures_total",
    "Recommendation jobs that failed to submit or complete", .counter, [], []⟩,
   ⟨"inference_recommender_job_wait_seconds",
    "Time spent waiting for a recommendation job to finish", .histogram, [], waitBounds⟩,
   ⟨"inference_recommender_jobs_submitted_total",
    "Recommendation jobs submitted, by job type", .counter, ["job_type"], []⟩,
   ⟨"inference_recommender_recommendations_received_total",
    "Inference recommendations returned by completed jobs", .counter, [], []⟩]

end RightSizing
