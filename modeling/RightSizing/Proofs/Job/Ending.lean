import RightSizing.Job.Run
import RightSizing.Proofs.Session.Trace

/-!
# How a job ends

Everything that `Model.rightSize` can do, said once, with the model behind it and the whole trace.
The answers of the service are arbitrary here; where they come from is said by `Answered`.

* `Reaching`, `Model.ensureSession_reaching`   the session is there, or the factory is asked
* `Submission`, `submitJob_submission`   the document is refused, or its job breaks off, ends with a
                                         description that cannot be read, or gives an outcome
* `Ending`, `Model.rightSize_ending`     the request is rejected, no session is reached, or the
                                         document is submitted

A property of a job is proved by cases on its ending, so that nothing has to be unfolded again.
-/

namespace RightSizing

/-- a description is never at fault in any other way -/
theorem malformed_of_recommendationsOf {results : JobResults} {failure : Failure}
    (h : recommendationsOf results = .error failure) :
    ∃ error, failure = .malformedResults error := by
  unfold recommendationsOf at h
  split at h
  · cases h
  · cases h
  · rename_i ranked _ _
    cases hr : (Codec.list InferenceRecommendation.codec).read ranked with
    | error error => rw [hr] at h; cases h; exact ⟨error, rfl⟩
    | ok recommendations => rw [hr] at h; cases h

theorem malformed_of_ofResults {jobName : String} {jobType : JobType} {results : JobResults}
    {completedAt : Int} {failure : Failure}
    (h : JobOutcome.ofResults jobName jobType results completedAt = .error failure) :
    ∃ error, failure = .malformedResults error := by
  unfold JobOutcome.ofResults at h
  cases hr : recommendationsOf results with
  | error other =>
    rw [hr] at h
    cases h
    exact malformed_of_recommendationsOf hr
  | ok recommendations =>
    rw [hr] at h
    cases h

/-- an outcome is its name, its kind and its time, with the description and what is read from it -/
theorem JobOutcome.ofResults_eq_ok_iff {jobName : String} {jobType : JobType} {results : JobResults}
    {completedAt : Int} {o : JobOutcome} :
    ofResults jobName jobType results completedAt = .ok o ↔
      o.jobName = jobName ∧ o.jobType = jobType ∧ o.results = results ∧
        recommendationsOf results = .ok o.recommendations ∧ o.completedAt = completedAt := by
  obtain ⟨name, kind, description, ranked, time⟩ := o
  unfold ofResults
  cases recommendationsOf results with
  | error failure => simp [Except.map]
  | ok recommendations =>
    simp only [Except.map, Except.ok.injEq, JobOutcome.mk.injEq]
    constructor
    · rintro ⟨rfl, rfl, rfl, rfl, rfl⟩
      exact ⟨rfl, rfl, rfl, rfl, rfl⟩
    · rintro ⟨rfl, rfl, rfl, rfl, rfl⟩
      exact ⟨rfl, rfl, rfl, rfl, rfl⟩

section
variable {σ φ : Type}

/-! ## The ways -/

inductive Reaching (m : Model σ φ) : Step σ φ σ → Prop
  | attached {s : σ} (hs : m.session = some s) : Reaching m ⟨.ok s, m, []⟩
  | unavailable (hs : m.session = none) (hf : m.factory = none) :
      Reaching m ⟨.error .sessionUnavailable, m, []⟩
  | built {f : φ} {s : σ} (hs : m.session = none) (hf : m.factory = some f) :
      Reaching m ⟨.ok s, m.withSession s, [.call (.build f (.ok s))]⟩
  | unbuilt {f : φ} {complaint : Complaint} (hs : m.session = none) (hf : m.factory = some f) :
      Reaching m ⟨.error (.session complaint), m, [.call (.build f (.error complaint))]⟩

/-- what is done up to the answer to a document -/
def opening (d : JobDocument) (s : σ) (answer : Except Complaint String) : List (Effect σ φ) :=
  [.note (.event (.creating d.jobName d.framework)), .call (.create s d answer)]

/-- what is noted when a document was accepted -/
def submissionNotes (d : JobDocument) (jobName : String) : List (Effect σ φ) :=
  [.note (.count (.submitted d.jobType) 1),
   .note (.event (.submitted d.packageArn jobName d.jobType))]

inductive Submission (d : JobDocument) (s : σ) (level : LogLevel) (timing : Timing) :
    Except Failure JobOutcome × List (Effect σ φ) → Prop
  | refused (complaint : Complaint) :
      Submission d s level timing (.error (.session complaint),
        opening d s (.error complaint) ++ failureNotes d.packageArn d.jobName complaint)
  | broken (jobName : String) (complaint : Complaint) :
      Submission d s level timing (.error (.session complaint),
        opening d s (.ok jobName) ++ submissionNotes d jobName ++
          .call (.wait s jobName level (.error complaint)) ::
            failureNotes d.packageArn (some jobName) complaint)
  | unreadable (jobName : String) {results : JobResults} {error : DecodeError}
      (hr : recommendationsOf results = .error (.malformedResults error)) :
      Submission d s level timing (.error (.malformedResults error),
        opening d s (.ok jobName) ++ submissionNotes d jobName ++
          [.call (.wait s jobName level (.ok results))])
  | done (jobName : String) {results : JobResults} {recommendations : List InferenceRecommendation}
      (hr : recommendationsOf results = .ok recommendations) :
      Submission d s level timing
        (.ok ⟨jobName, d.jobType, results, recommendations, timing.completedAt⟩,
        opening d s (.ok jobName) ++ submissionNotes d jobName ++
          .call (.wait s jobName level (.ok results)) ::
            completionNotes d.packageArn
              ⟨jobName, d.jobType, results, recommendations, timing.completedAt⟩ timing)

/-- the decision on the kind of the job, noted before anything else is done -/
def decision (d : JobDocument) : Effect σ φ := .note (.event (.jobType d.packageArn d.jobType))

inductive Ending (m : Model σ φ) (request : JobRequest) (settings : Settings) (timing : Timing) :
    Step σ φ JobOutcome → Prop
  | rejected {failure : Failure} (hd : request.document settings m = .error failure) :
      Ending m request settings timing ⟨.error failure, m, []⟩
  | unreached {d : JobDocument} {failure : Failure} {m' : Model σ φ} {trace : List (Effect σ φ)}
      (hd : request.document settings m = .ok d) (hm : Reaching m ⟨.error failure, m', trace⟩) :
      Ending m request settings timing ⟨.error failure, m', decision d :: trace⟩
  | submitted {d : JobDocument} {s : σ} {m' : Model σ φ} {trace rest : List (Effect σ φ)}
      {result : Except Failure JobOutcome} (hd : request.document settings m = .ok d)
      (hm : Reaching m ⟨.ok s, m', trace⟩)
      (hs : Submission d s (request.resolvedLogLevel settings) timing (result, rest)) :
      Ending m request settings timing ⟨result, m', decision d :: (trace ++ rest)⟩

variable [DecidableEq σ] [DecidableEq φ]

/-! ## There are no others -/

theorem Model.ensureSession_reaching (service : Service σ φ) (past : List (Call σ φ))
    (m : Model σ φ) : Reaching m (m.ensureSession service past) := by
  unfold Model.ensureSession
  split
  · next s hs => exact .attached hs
  · next hs hf => exact .unavailable hs hf
  · next f hs hf =>
    cases service.build f (callsTo (.factory f) past) with
    | ok s => exact .built hs hf
    | error complaint => exact .unbuilt hs hf

theorem submitJob_submission (service : Service σ φ) (past : List (Call σ φ)) (s : σ)
    (d : JobDocument) (level : LogLevel) (timing : Timing) :
    Submission d s level timing (submitJob service past s d level timing) := by
  unfold submitJob
  cases service.create s (callsTo (.session s) past) d with
  | error complaint => exact .refused complaint
  | ok jobName =>
    dsimp only [awaitJob]
    cases service.wait s (callsTo (.session s) (past ++ [.create s d (.ok jobName)])) jobName
      level with
    | error complaint => exact .broken jobName complaint
    | ok results =>
      dsimp only [JobOutcome.ofResults]
      cases hr : recommendationsOf results with
      | error failure =>
        obtain ⟨error, rfl⟩ := malformed_of_recommendationsOf hr
        exact .unreadable jobName hr
      | ok recommendations => exact .done jobName hr

theorem Model.rightSize_ending (service : Service σ φ) (past : List (Call σ φ)) (m : Model σ φ)
    (request : JobRequest) (settings : Settings) (timing : Timing) :
    Ending m request settings timing (m.rightSize service past request settings timing) := by
  unfold Model.rightSize
  split
  · next failure hd => exact .rejected hd
  · next d hd =>
    have hm := m.ensureSession_reaching service past
    generalize m.ensureSession service past = reached at hm
    obtain ⟨result, m', trace⟩ := reached
    cases result with
    | error failure => exact .unreached hd hm
    | ok s => exact .submitted hd hm (submitJob_submission service _ s d _ timing)

end

/-! ## The calls on the way -/

section
variable {σ φ : Type} {m m' : Model σ φ} {s : σ} {d : JobDocument} {level : LogLevel}
  {timing : Timing} {trace rest : List (Effect σ φ)} {result : Except Failure JobOutcome}

theorem Reaching.calls_of_ok (h : Reaching m ⟨.ok s, m', trace⟩) :
    m'.session = some s ∧ (callsOf trace = [] ∨ ∃ f, callsOf trace = [.build f (.ok s)]) := by
  cases h with
  | attached hs => exact ⟨hs, .inl rfl⟩
  | built hs hf => exact ⟨rfl, .inr ⟨_, rfl⟩⟩

theorem Reaching.calls_of_error {failure : Failure} (h : Reaching m ⟨.error failure, m', trace⟩) :
    m' = m ∧ m.session = none ∧
      (failure = .sessionUnavailable ∧ m.factory = none ∧ callsOf trace = [] ∨
        ∃ f complaint, failure = .session complaint ∧ m.factory = some f ∧
          callsOf trace = [.build f (.error complaint)]) := by
  cases h with
  | unavailable hs hf => exact ⟨rfl, hs, .inl ⟨rfl, hf, rfl⟩⟩
  | unbuilt hs hf => exact ⟨rfl, hs, .inr ⟨_, _, rfl, hf, rfl⟩⟩

/-- the result of waiting, by the answer to it -/
def awaited (d : JobDocument) (jobName : String) (timing : Timing) :
    Except Complaint JobResults → Except Failure JobOutcome
  | .error complaint => .error (.session complaint)
  | .ok results => JobOutcome.ofResults jobName d.jobType results timing.completedAt

theorem Submission.calls (h : Submission d s level timing (result, rest)) :
    (∃ complaint, result = .error (.session complaint) ∧
      callsOf rest = [.create s d (.error complaint)]) ∨
    ∃ jobName answer, result = awaited d jobName timing answer ∧
      callsOf rest = [.create s d (.ok jobName), .wait s jobName level answer] := by
  cases h with
  | refused complaint => exact .inl ⟨complaint, rfl, rfl⟩
  | broken jobName complaint => exact .inr ⟨jobName, .error complaint, rfl, rfl⟩
  | unreadable jobName hr =>
    refine .inr ⟨jobName, .ok _, ?_, rfl⟩
    rw [awaited, JobOutcome.ofResults, hr]
    rfl
  | done jobName hr =>
    refine .inr ⟨jobName, .ok _, ?_, rfl⟩
    rw [awaited, JobOutcome.ofResults, hr]
    rfl

/-- a document and all that follows it go to one session -/
theorem Submission.party (h : Submission d s level timing (result, rest)) :
    ∀ call ∈ callsOf rest, call.party = (.session s : Party σ φ) := by
  rcases h.calls with ⟨complaint, -, hc⟩ | ⟨jobName, answer, -, hc⟩
  · rw [hc, List.forall_mem_singleton]
    rfl
  · rw [hc, List.forall_mem_cons, List.forall_mem_singleton]
    exact ⟨rfl, rfl⟩

end

end RightSizing
