import Mathlib.Algebra.Ring.Nat
import RightSizing.Proofs.Job.Bookkeeping
import RightSizing.Proofs.Job.Steps
import RightSizing.Proofs.Job.Validation
import RightSizing.Proofs.Session.Answers

/-!
# The log of a run

Events and counters are written one beside the other, and an observer may trust either: over every
run the events of a kind are as many as the counter for them says (`NotesAgree`).

Within a job the log follows the calls.  `KeepsLog` says which events there are, in which order they
stand and whose names they carry; every event has its cause among the calls, and every cause its event.
`Ending.keepsLog` proves it of every way a job can end, and `Campaign.run_keepsLog` of every job of a
campaign.
-/

namespace RightSizing

namespace Event

@[simp] def isSubmitted (t : JobType) : Event → Bool
  | submitted _ _ kind => kind = t
  | _ => false

/-- the number of recommendations that an event tells of -/
@[simp] def recommendations : Event → Nat
  | completed _ _ n _ => n
  | _ => 0

/-- how far a job has come; a deploy is another matter -/
@[simp] def stage : Event → Nat
  | jobType _ _ => 0
  | creating _ _ => 1
  | submitted _ _ _ => 2
  | completed _ _ _ _ | failed _ _ _ => 3
  | overridden _ _ => 4

end Event

section
variable {σ φ : Type}

/-- a counter holds the number of its events as a word of 64 bits -/
structure NotesAgree (notes : List Note) : Prop where
  submitted : ∀ t, UInt64.ofNat ((eventsOf notes).countP (Event.isSubmitted t)) =
    moved (.submitted t) notes
  failed : UInt64.ofNat ((eventsOf notes).countP Event.isFailed) = moved .failures notes
  completed : (eventsOf notes).countP Event.isCompleted = (waitsOf notes).length
  received : UInt64.ofNat ((eventsOf notes).map Event.recommendations).sum = moved .received notes

namespace NotesAgree

variable {notes more : List Note}

theorem nothing : NotesAgree [] := ⟨fun _ => rfl, rfl, rfl, rfl⟩

theorem append (h : NotesAgree notes) (h' : NotesAgree more) : NotesAgree (notes ++ more) where
  submitted t := by
    rw [eventsOf_append, List.countP_append, UInt64.ofNat_add, h.submitted, h'.submitted,
      moved_append]
  failed := by
    rw [eventsOf_append, List.countP_append, UInt64.ofNat_add, h.failed, h'.failed, moved_append]
  completed := by
    rw [eventsOf_append, List.countP_append, h.completed, h'.completed, waitsOf_append,
      List.length_append]
  received := by
    rw [eventsOf_append, List.map_append, List.sum_append, UInt64.ofNat_add, h.received,
      h'.received, moved_append]

variable (d : JobDocument) (s : σ) (answer : Except Complaint String) (jobName : String)

theorem decision : NotesAgree (notesOf [(decision d : Effect σ φ)]) := by
  constructor <;> simp [RightSizing.decision, Event.isFailed, Event.isCompleted]

theorem opening : NotesAgree (notesOf (opening (φ := φ) d s answer)) := by
  constructor <;> simp [RightSizing.opening, Event.isFailed, Event.isCompleted]

theorem submission : NotesAgree (notesOf (submissionNotes (σ := σ) (φ := φ) d jobName)) := by
  constructor
  case submitted =>
    intro t
    by_cases h : d.jobType = t <;> simp [submissionNotes, h]
  all_goals simp [submissionNotes, Event.isFailed, Event.isCompleted]

theorem failure (package : String) (name : Option String) (complaint : Complaint) :
    NotesAgree (notesOf (failureNotes (σ := σ) (φ := φ) package name complaint)) := by
  constructor <;> simp [failureNotes, Event.isFailed, Event.isCompleted]

theorem completion (package : String) (o : JobOutcome) (timing : Timing) :
    NotesAgree (notesOf (completionNotes (σ := σ) (φ := φ) package o timing)) := by
  constructor <;> simp [completionNotes, Event.isFailed, Event.isCompleted]

end NotesAgree

variable {m : Model σ φ} {d : JobDocument} {s : σ} {level : LogLevel} {request : JobRequest}
  {settings : Settings} {timing : Timing} {result : Except Failure JobOutcome}
  {rest : List (Effect σ φ)} {step : Step σ φ JobOutcome}

theorem Submission.notesAgree (h : Submission d s level timing (result, rest)) :
    NotesAgree (notesOf rest) := by
  cases h with
  | refused complaint =>
    rw [notesOf_append]
    exact (NotesAgree.opening d s _).append (.failure _ _ complaint)
  | broken jobName complaint =>
    rw [notesOf_append, notesOf_append, notesOf_call]
    exact ((NotesAgree.opening d s _).append (.submission d jobName)).append (.failure _ _ complaint)
  | unreadable jobName hr =>
    rw [notesOf_append, notesOf_append, notesOf_call]
    exact ((NotesAgree.opening d s _).append (.submission d jobName)).append .nothing
  | done jobName hr =>
    rw [notesOf_append, notesOf_append, notesOf_call]
    exact ((NotesAgree.opening d s _).append (.submission d jobName)).append (.completion _ _ timing)

theorem Ending.notesAgree (h : Ending m request settings timing step) :
    NotesAgree (notesOf step.trace) := by
  cases h with
  | rejected hd => exact .nothing
  | unreached hd hm =>
    have hn : notesOf _ = [] := hm.notes
    show NotesAgree (_ :: notesOf _)
    rw [hn]
    exact .decision (σ := σ) (φ := φ) _
  | submitted hd hm hs =>
    have hn : notesOf _ = [] := hm.notes
    show NotesAgree (_ :: notesOf (_ ++ _))
    rw [notesOf_append, hn, List.nil_append]
    exact (NotesAgree.decision (σ := σ) (φ := φ) _).append hs.notesAgree

/-! ## Events and calls -/

theorem JobRequest.document_jobName (hd : request.document settings m = .ok d) :
    d.jobName = request.jobName := by
  obtain ⟨arn, configurations, -, -, rfl⟩ := document_eq_ok_iff.mp hd
  rfl

structure KeepsLog (m : Model σ φ) (request : JobRequest) (settings : Settings) (timing : Timing)
    (calls : List (Call σ φ)) (events : List Event) (result : Except Failure JobOutcome) :
    Prop where
  /-- one stage after the other, so no event comes twice and a job is closed once at most -/
  ordered : events.Pairwise fun e later => e.stage < later.stage
  document : ∀ s d answer, .create s d answer ∈ calls → request.document settings m = .ok d
  decided : ∀ package t, .jobType package t ∈ events ↔
    ∃ d, request.document settings m = .ok d ∧ package = d.packageArn ∧ t = d.jobType
  creating : ∀ jobName framework, .creating jobName framework ∈ events ↔
    ∃ s d answer, .create s d answer ∈ calls ∧ jobName = d.jobName ∧ framework = d.framework
  submitted : ∀ package jobName t, .submitted package jobName t ∈ events ↔
    ∃ s d created, .create s d (.ok created) ∈ calls ∧ package = d.packageArn ∧
      jobName = created ∧ t = d.jobType
  /-- a document that was refused is not submitted -/
  unsubmitted : ∀ s d complaint, .create s d (.error complaint) ∈ calls →
    ∀ package jobName t, .submitted package jobName t ∉ events
  completed : ∀ package jobName n time, .completed package jobName n time ∈ events ↔
    ∃ s d o, result = .ok o ∧ .create s d (.ok o.jobName) ∈ calls ∧ package = d.packageArn ∧
      jobName = o.jobName ∧ n = o.recommendations.length ∧ time = timing
  failed : ∀ package name text, .failed package name text ∈ events ↔
    (∃ s d complaint, .create s d (.error complaint) ∈ calls ∧ package = d.packageArn ∧
      name = request.jobName ∧ text = complaint.message) ∨
    ∃ s d created level complaint, .create s d (.ok created) ∈ calls ∧
      .wait s created level (.error complaint) ∈ calls ∧ package = d.packageArn ∧
      name = some created ∧ text = complaint.message
  overridden : ∀ reason message, .overridden reason message ∉ events

namespace KeepsLog

variable {calls : List (Call σ φ)} {events : List Event} {f : φ} {jobName : String}
  {complaint : Complaint}

/-- a session that the factory built first leaves no event -/
theorem of_built (h : KeepsLog m request settings timing calls events result)
    (answer : Except Complaint σ) :
    KeepsLog m request settings timing (.build f answer :: calls) events result where
  ordered := h.ordered
  document := by simpa using h.document
  decided := h.decided
  creating := by simpa using h.creating
  submitted := by simpa using h.submitted
  unsubmitted := by simpa using h.unsubmitted
  completed := by simpa using h.completed
  failed := by simpa using h.failed
  overridden := h.overridden

theorem of_rejected {failure : Failure} (hd : request.document settings m = .error failure) :
    KeepsLog m request settings timing [] [] (.error failure) := by
  constructor <;> simp [hd]

theorem of_unreached {failure : Failure} (hd : request.document settings m = .ok d) :
    KeepsLog m request settings timing [] [.jobType d.packageArn d.jobType] (.error failure) := by
  constructor <;> simp [hd]

theorem of_refused (hd : request.document settings m = .ok d) :
    KeepsLog m request settings timing [.create s d (.error complaint)]
      [.jobType d.packageArn d.jobType, .creating d.jobName d.framework,
        .failed d.packageArn d.jobName complaint.message] (.error (.session complaint)) := by
  have hname : d.jobName = request.jobName := JobRequest.document_jobName hd
  constructor <;> simp +contextual [hd, hname, and_assoc]

theorem exists_accepted_iff {answer : Except Complaint JobResults} {package name : String}
    {t : JobType} :
    (∃ s' d' created, .create s' d' (.ok created) ∈
        ([.create s d (.ok jobName), .wait s jobName level answer] : List (Call σ φ)) ∧
      package = d'.packageArn ∧ name = created ∧ t = d'.jobType) ↔
      package = d.packageArn ∧ name = jobName ∧ t = d.jobType := by
  constructor
  · rintro ⟨s', d', created, h, heq⟩
    rcases List.mem_cons.mp h with h | h
    · cases h
      exact heq
    · cases List.mem_singleton.mp h
  · exact fun heq => ⟨s, d, jobName, List.mem_cons_self, heq⟩

theorem of_broken (hd : request.document settings m = .ok d) :
    KeepsLog m request settings timing
      [.create s d (.ok jobName), .wait s jobName level (.error complaint)]
      [.jobType d.packageArn d.jobType, .creating d.jobName d.framework,
        .submitted d.packageArn jobName d.jobType,
        .failed d.packageArn (some jobName) complaint.message] (.error (.session complaint)) := by
  constructor
  -- both calls and all events are known, but the submitted name is that of the document accepted
  case submitted =>
    intro package name t
    rw [exists_accepted_iff]
    simp
  all_goals simp +contextual [hd, and_assoc]

theorem of_unreadable {results : JobResults} {failure : Failure}
    (hd : request.document settings m = .ok d) :
    KeepsLog m request settings timing
      [.create s d (.ok jobName), .wait s jobName level (.ok results)]
      [.jobType d.packageArn d.jobType, .creating d.jobName d.framework,
        .submitted d.packageArn jobName d.jobType] (.error failure) := by
  constructor
  case submitted =>
    intro package name t
    rw [exists_accepted_iff]
    simp
  all_goals simp +contextual [hd, and_assoc]

theorem of_done (o : JobOutcome) (hd : request.document settings m = .ok d) :
    KeepsLog m request settings timing
      [.create s d (.ok o.jobName), .wait s o.jobName level (.ok o.results)]
      [.jobType d.packageArn d.jobType, .creating d.jobName d.framework,
        .submitted d.packageArn o.jobName d.jobType,
        .completed d.packageArn o.jobName o.recommendations.length timing] (.ok o) := by
  constructor
  case submitted =>
    intro package name t
    rw [exists_accepted_iff]
    simp
  all_goals simp +contextual [hd, and_assoc]

end KeepsLog

theorem Submission.keepsLog (hd : request.document settings m = .ok d)
    (h : Submission d s level timing (result, rest)) :
    KeepsLog m request settings timing (callsOf rest)
      (.jobType d.packageArn d.jobType :: eventsOf (notesOf rest)) result := by
  cases h with
  | refused complaint => exact .of_refused hd
  | broken jobName complaint => exact .of_broken hd
  | unreadable jobName hr => exact .of_unreadable hd
  | done jobName hr => exact .of_done ⟨jobName, d.jobType, _, _, timing.completedAt⟩ hd

theorem Ending.keepsLog (h : Ending m request settings timing step) :
    KeepsLog m request settings timing (callsOf step.trace) (eventsOf (notesOf step.trace))
      step.result := by
  cases h with
  | rejected hd => exact .of_rejected hd
  | unreached hd hm =>
    obtain ⟨-, -, hc⟩ := hm.calls_of_error
    have hn : notesOf _ = [] := hm.notes
    show KeepsLog m request settings timing (callsOf (.note _ :: _))
      (_ :: eventsOf (notesOf _)) _
    rw [callsOf_note, hn]
    rcases hc with ⟨-, -, hc⟩ | ⟨f, complaint, -, -, hc⟩
    · rw [hc]
      exact .of_unreached hd
    · rw [hc]
      exact (KeepsLog.of_unreached hd).of_built _
  | submitted hd hm hs =>
    obtain ⟨-, hc⟩ := hm.calls_of_ok
    have hn : notesOf _ = [] := hm.notes
    show KeepsLog m request settings timing (callsOf (_ ++ _))
      (_ :: eventsOf (notesOf (_ ++ _))) _
    rw [callsOf_append, notesOf_append, hn, List.nil_append]
    rcases hc with hc | ⟨f, hc⟩
    · rw [hc]
      exact hs.keepsLog hd
    · rw [hc]
      exact (hs.keepsLog hd).of_built _

/-! ## A run -/

theorem Model.act_notesAgree [DecidableEq σ] [DecidableEq φ] (service : Service σ φ)
    (past : List (Call σ φ)) (m : Model σ φ) (a : Action) :
    NotesAgree (notesOf (m.act service past a).trace) := by
  cases a with
  | ensureSession =>
    show NotesAgree (notesOf (m.ensureSession service past).trace)
    rw [(m.ensureSession_reaching service past).notes]
    exact .nothing
  | rightSize request settings timing =>
    exact (m.rightSize_ending service past request settings timing).notesAgree

end

namespace Campaign

variable {ι σ φ : Type} [DecidableEq ι] [DecidableEq σ] [DecidableEq φ]

theorem run_notesAgree (service : Service σ φ) (c : Campaign ι σ φ)
    (actions : List (ι × Action)) : NotesAgree (notesOf (traceOf (run service c actions).2)) := by
  refine run_induction (motive := fun steps => NotesAgree (notesOf (traceOf steps))) .nothing ?_
    c actions
  intro past m a steps ih
  rw [traceOf_cons, notesOf_append]
  exact (m.act_notesAgree service past a).append ih

/-- **The log of a run tells what its counters tell, and the log of each job follows its calls**,
wherever in the run the job stands and whatever was answered. -/
theorem run_keepsLog (service : Service σ φ) (c : Campaign ι σ φ) (actions : List (ι × Action)) :
    let steps := (run service c actions).2
    NotesAgree (notesOf (traceOf steps)) ∧
      ∀ before after i request settings timing,
        actions = before ++ (i, .rightSize request settings timing) :: after →
          let reached := (run service c before).1
          let m := reached.models i
          let step := m.rightSize service reached.calls request settings timing
          steps[before.length]? = some (step.map .outcome) ∧
            KeepsLog m request settings timing (callsOf step.trace)
              (eventsOf (notesOf step.trace)) step.result := by
  intro steps
  refine ⟨run_notesAgree service c actions, ?_⟩
  intro before after i request settings timing hactions reached m step
  have hstep := run_step service c before after i (.rightSize request settings timing)
  rw [← hactions] at hstep
  exact ⟨hstep, (m.rightSize_ending service reached.calls request settings timing).keepsLog⟩

end Campaign

end RightSizing
