import RightSizing.Job.Request
import RightSizing.Session.Service

/-!
# Running a job

`Model.rightSize` runs a recommendation job for a model: it makes the job document, reaches a
session, submits the document, waits for the job and reads its recommendations.  Whatever fails ends
the run; nothing is tried twice.

* `Model.ensureSession`  the session of the model, built by its factory on first use and then kept
* `awaitJob`             waiting for a submitted job and closing it
* `submitJob`            submitting a document and all that follows

Each takes the calls made so far, asks the service by them, and returns the trace of what it did.
The clocks are read once a job is over; their readings are an argument of the run.
-/

namespace RightSizing

/-- what a step gave, the model behind it, and what was done -/
structure Step (σ φ α : Type) where
  result : Except Failure α
  model : Model σ φ
  trace : List (Effect σ φ)

section
variable {σ φ : Type} [DecidableEq σ] [DecidableEq φ]

def Model.ensureSession (service : Service σ φ) (past : List (Call σ φ)) (m : Model σ φ) :
    Step σ φ σ :=
  match m.session, m.factory with
  | some session, _ => ⟨.ok session, m, []⟩
  | none, none => ⟨.error .sessionUnavailable, m, []⟩
  | none, some factory =>
    let answer := service.build factory (callsTo (.factory factory) past)
    let trace := [Effect.call (.build factory answer)]
    match answer with
    | .ok session => ⟨.ok session, m.withSession session, trace⟩
    | .error complaint => ⟨.error (.session complaint), m, trace⟩

/-- what is noted when a job fails -/
def failureNotes (package : String) (jobName : Option String) (complaint : Complaint) :
    List (Effect σ φ) :=
  [.note (.count .failures 1), .note (.event (.failed package jobName complaint.message))]

/-- what is noted when a job gave recommendations -/
def completionNotes (package : String) (outcome : JobOutcome) (timing : Timing) :
    List (Effect σ φ) :=
  [.note (.observeWait timing.waited),
   .note (.count .received (UInt64.ofNat outcome.recommendations.length)),
   .note (.event (.completed package outcome.jobName outcome.recommendations.length timing))]

/-- waits for a job; a description that cannot be read is returned as a failure, and nothing is
noted of it -/
def awaitJob (service : Service σ φ) (past : List (Call σ φ)) (session : σ)
    (document : JobDocument) (jobName : String) (level : LogLevel) (timing : Timing) :
    Except Failure JobOutcome × List (Effect σ φ) :=
  let answer := service.wait session (callsTo (.session session) past) jobName level
  let waited := Effect.call (.wait session jobName level answer)
  match answer with
  | .error complaint =>
    (.error (.session complaint),
      waited :: failureNotes document.packageArn (some jobName) complaint)
  | .ok results =>
    match JobOutcome.ofResults jobName document.jobType results timing.completedAt with
    | .error failure => (.error failure, [waited])
    | .ok outcome => (.ok outcome, waited :: completionNotes document.packageArn outcome timing)

def submitJob (service : Service σ φ) (past : List (Call σ φ)) (session : σ)
    (document : JobDocument) (level : LogLevel) (timing : Timing) :
    Except Failure JobOutcome × List (Effect σ φ) :=
  let answer := service.create session (callsTo (.session session) past) document
  let created := Call.create session document answer
  let opening := [Effect.note (.event (.creating document.jobName document.framework)),
    .call created]
  match answer with
  | .error complaint =>
    (.error (.session complaint),
      opening ++ failureNotes document.packageArn document.jobName complaint)
  | .ok jobName =>
    let (result, trace) :=
      awaitJob service (past ++ [created]) session document jobName level timing
    (result, opening ++ .note (.count (.submitted document.jobType) 1) ::
      .note (.event (.submitted document.packageArn jobName document.jobType)) :: trace)

/-- runs a job for a model; the document is made before anything else is done -/
def Model.rightSize (service : Service σ φ) (past : List (Call σ φ)) (m : Model σ φ)
    (request : JobRequest) (settings : Settings) (timing : Timing) : Step σ φ JobOutcome :=
  match request.document settings m with
  | .error failure => ⟨.error failure, m, []⟩
  | .ok document =>
    let decided := Effect.note (.event (.jobType document.packageArn document.jobType))
    let reached := m.ensureSession service past
    match reached.result with
    | .error failure => ⟨.error failure, reached.model, decided :: reached.trace⟩
    | .ok session =>
      let (result, trace) := submitJob service (past ++ callsOf reached.trace) session document
        (request.resolvedLogLevel settings) timing
      ⟨result, reached.model, decided :: (reached.trace ++ trace)⟩

end

end RightSizing
