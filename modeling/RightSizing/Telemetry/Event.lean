import RightSizing.Job.Kind
import RightSizing.Text.Outline

/-!
# Events

What is logged about jobs and deploys.  An `Event` is rendered as a level, a message and named
fields; texts that the reader has to tell from their absence are written as outlines.
-/

namespace RightSizing

/-- what the clocks say when a job is over -/
structure Timing where
  /-- how many seconds the session waited -/
  waited : Binary64
  /-- seconds since the epoch -/
  completedAt : Int
deriving DecidableEq, Repr

inductive Level where
  | debug
  | info
  | warn
deriving DecidableEq, Repr

def Level.name : Level → String
  | debug => "DEBUG"
  | info => "INFO"
  | warn => "WARN"

inductive Event where
  /-- the kind of job is decided -/
  | jobType (package : String) (jobType : JobType)
  /-- a document is about to be submitted -/
  | creating (jobName framework : Option String)
  | submitted (package jobName : String) (jobType : JobType)
  | completed (package jobName : String) (recommendations : Nat) (timing : Timing)
  | failed (package : String) (jobName : Option String) (error : String)
  /-- arguments of a deploy replace a recommendation -/
  | overridden (reason message : String)
deriving DecidableEq, Repr

namespace Event

def level : Event → Level
  | creating _ _ => .debug
  | jobType _ _ | submitted _ _ _ | completed _ _ _ _ => .info
  | failed _ _ _ | overridden _ _ => .warn

def message : Event → String
  | jobType _ .advanced => "Advanced job parameters were specified. Running Advanced job..."
  | jobType _ .default => "Advanced job parameters were not specified. Running Default job..."
  | creating _ _ => "Creating inference recommendations job"
  | submitted _ _ _ => "Submitted inference recommendations job"
  | completed _ _ _ _ => "Inference recommendations job completed"
  | failed _ _ _ => "Inference recommendations job failed"
  | overridden _ message => message

def optionText (s : Option String) : Value :=
  .string (String.ofList (Text.Outline.ofOption s).compact)

def fields : Event → Value.Members
  | jobType package t =>
    [("event", .string "recommendation_job_type"), ("model_package", .string package),
     ("job_type", .string t.name)]
  | creating jobName framework =>
    [("job_name", optionText jobName), ("framework", optionText framework)]
  | submitted package jobName t =>
    [("event", .string "recommendation_job_submitted"), ("model_package", .string package),
     ("job_name", .string jobName), ("job_type", .string t.name)]
  | completed package jobName recommendations timing =>
    [("event", .string "recommendation_job_completed"), ("model_package", .string package),
     ("job_name", .string jobName), ("recommendations", .integer recommendations),
     ("wait_secs", .real timing.waited), ("completed_at", .integer timing.completedAt)]
  | failed package jobName error =>
    [("event", .string "recommendation_job_failed"), ("model_package", .string package),
     ("job_name", optionText jobName), ("error", .string error)]
  | overridden reason _ =>
    [("event", .string "recommendation_overridden"), ("reason", .string reason)]

end Event

end RightSizing
