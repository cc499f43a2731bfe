import RightSizing.Proofs.Job.Ending

/-!
# What a job leaves behind for observers

Once a document is submitted, an observer should learn from the notes alone how the job ended: by
one completed event and one observed wait, or by one failed event and one more failure on the
counter (`Tally.due`).  This holds of every job but one kind: a job whose description cannot be read
is a failure for the caller and leaves nothing at all behind.  `Model.rightSize_tally_iff` says so
exactly, and `unreadable_leaves_nothing` is such a job.
-/

namespace RightSizing

/-- what tells an observer how a job ended -/
structure Tally where
  completed : Nat
  failed : Nat
  waits : Nat
  failures : UInt64
deriving DecidableEq, Repr

namespace Tally

def nothing : Tally := ⟨0, 0, 0, 0⟩

/-- the tally of a job that is closed by the event for its result, and by no other -/
def due : Except Failure JobOutcome → Tally
  | .ok _ => ⟨1, 0, 1, 0⟩
  | .error _ => ⟨0, 1, 0, 1⟩

theorem nothing_ne_due (result : Except Failure JobOutcome) : nothing ≠ due result := by
  cases result with
  | ok o => exact fun h => Nat.zero_ne_one (congrArg completed h)
  | error failure => exact fun h => Nat.zero_ne_one (congrArg failed h)

end Tally

def tally (notes : List Note) : Tally :=
  { completed := (eventsOf notes).countP Event.isCompleted
    failed := (eventsOf notes).countP Event.isFailed
    waits := (waitsOf notes).length
    failures := moved .failures notes }

section
variable {σ φ : Type}

/-- a description that came with a call can be read -/
def Call.Readable : Call σ φ → Prop
  | .wait _ _ _ (.ok results) =>
    ∃ recommendations, recommendationsOf results = .ok recommendations
  | _ => True

/-! ## Notes and calls on the way -/

/-- the decision on the kind of a job closes nothing -/
theorem tally_decision (d : JobDocument) (notes : List Note) :
    tally (.event (.jobType d.packageArn d.jobType) :: notes) = tally notes := by
  simp [tally, Event.isCompleted, Event.isFailed]

/-- reaching a session leaves no notes -/
theorem Reaching.notes {m : Model σ φ} {step : Step σ φ σ} (h : Reaching m step) :
    notesOf step.trace = [] := by
  cases h <;> rfl

theorem Reaching.readable {m : Model σ φ} {step : Step σ φ σ} (h : Reaching m step) :
    ∀ call ∈ callsOf step.trace, call.Readable := by
  cases h <;> simp [Call.Readable]

variable {d : JobDocument} {s : σ} {level : LogLevel} {timing : Timing}
  {result : Except Failure JobOutcome} {rest : List (Effect σ φ)}

theorem Submission.creates (h : Submission d s level timing (result, rest)) :
    ∃ answer, .create s d answer ∈ callsOf rest := by
  rcases h.calls with ⟨complaint, -, hc⟩ | ⟨jobName, answer, -, hc⟩
  · exact ⟨_, hc ▸ List.mem_cons_self⟩
  · exact ⟨_, hc ▸ List.mem_cons_self⟩

/-- a submitted document is closed by the event for its result, or its description cannot be read -/
theorem Submission.tally_cases (h : Submission d s level timing (result, rest)) :
    (tally (notesOf rest) = .due result ∧ ∀ call ∈ callsOf rest, call.Readable) ∨
      tally (notesOf rest) = .nothing ∧ (∃ error, result = .error (.malformedResults error)) ∧
        ¬ ∀ call ∈ callsOf rest, call.Readable := by
  cases h with
  | refused complaint =>
    refine .inl ⟨?_, ?_⟩
    · simp [opening, failureNotes, tally, Tally.due, Event.isCompleted, Event.isFailed]
    · simp [opening, failureNotes, Call.Readable]
  | broken jobName complaint =>
    refine .inl ⟨?_, ?_⟩
    · simp [opening, submissionNotes, failureNotes, tally, Tally.due, Event.isCompleted,
        Event.isFailed]
    · simp [opening, submissionNotes, failureNotes, Call.Readable]
  | unreadable jobName hr =>
    refine .inr ⟨?_, ⟨_, rfl⟩, ?_⟩
    · simp [opening, submissionNotes, tally, Tally.nothing, Event.isCompleted, Event.isFailed]
    · simp [opening, submissionNotes, Call.Readable, hr]
  | done jobName hr =>
    refine .inl ⟨?_, ?_⟩
    · simp [opening, submissionNotes, completionNotes, tally, Tally.due, Event.isCompleted,
        Event.isFailed]
    · simp [opening, submissionNotes, completionNotes, Call.Readable, hr]

/-! ## Jobs -/

variable [DecidableEq σ] [DecidableEq φ]

/-- a job with a document and a session is submitted -/
theorem Model.rightSize_of_session (service : Service σ φ) (past : List (Call σ φ)) (m : Model σ φ)
    (request : JobRequest) (settings : Settings) (timing : Timing)
    (hd : request.document settings m = .ok d)
    (hs : (m.ensureSession service past).result = .ok s) :
    ∃ result rest, Submission d s (request.resolvedLogLevel settings) timing (result, rest) ∧
      m.rightSize service past request settings timing =
        ⟨result, (m.ensureSession service past).model,
          decision d :: ((m.ensureSession service past).trace ++ rest)⟩ := by
  refine ⟨_, _, submitJob_submission service
    (past ++ callsOf (m.ensureSession service past).trace) s d _ timing, ?_⟩
  rw [Model.rightSize, hd]
  dsimp only
  rw [hs]
  rfl

/-- **A submitted job is closed by the event for its result, unless its description cannot be read.**
Then the caller is told, and no observer. -/
theorem Model.rightSize_tally_iff (service : Service σ φ) (past : List (Call σ φ)) (m : Model σ φ)
    (request : JobRequest) (settings : Settings) (timing : Timing)
    (hd : request.document settings m = .ok d)
    (hs : (m.ensureSession service past).result = .ok s) :
    let step := m.rightSize service past request settings timing
    (∃ answer, .create s d answer ∈ callsOf step.trace) ∧
      (tally (notesOf step.trace) = .due step.result ↔
        ∀ call ∈ callsOf step.trace, call.Readable) ∧
      ((¬ ∀ call ∈ callsOf step.trace, call.Readable) →
        (∃ error, step.result = .error (.malformedResults error)) ∧
          tally (notesOf step.trace) = .nothing) := by
  intro step
  obtain ⟨result, rest, hsub, hstep⟩ :=
    m.rightSize_of_session service past request settings timing hd hs
  have hreach := m.ensureSession_reaching service past
  generalize m.ensureSession service past = reached at hstep hreach
  have hresult : step.result = result := congrArg Step.result hstep
  have hcalls : callsOf step.trace = callsOf reached.trace ++ callsOf rest := by
    rw [show step = _ from hstep]
    exact callsOf_append reached.trace rest
  have hnotes : tally (notesOf step.trace) = tally (notesOf rest) := by
    rw [show step = _ from hstep]
    show tally (_ :: notesOf (reached.trace ++ rest)) = _
    rw [tally_decision, notesOf_append, hreach.notes, List.nil_append]
  have hread : (∀ call ∈ callsOf step.trace, call.Readable) ↔
      ∀ call ∈ callsOf rest, call.Readable := by
    rw [hcalls, List.forall_mem_append]
    exact and_iff_right hreach.readable
  rw [hread, hnotes, hresult]
  refine ⟨?_, ?_⟩
  · obtain ⟨answer, h⟩ := hsub.creates
    exact ⟨answer, hcalls ▸ List.mem_append_right _ h⟩
  · rcases hsub.tally_cases with ⟨htally, hr⟩ | ⟨htally, herror, hr⟩
    · exact ⟨⟨fun _ => hr, fun _ => htally⟩, fun h => absurd hr h⟩
    · rw [htally]
      refine ⟨⟨fun h => ?_, fun h => absurd h hr⟩, fun _ => ⟨herror, rfl⟩⟩
      exact absurd h (Tally.nothing_ne_due result)

end

/-- a single session, which gives every job the same name and the same description -/
def describing (results : JobResults) : Service String Nat :=
  .scripted [("session", ⟨[.named "job"], [.ok results]⟩)] []

def attachedModel : Model String Nat := (Model.ofPackage "role" "package").withSession "session"

theorem rightSize_tally_of_empty :
    let step := attachedModel.rightSize (describing []) [] .empty .standard ⟨⟨0⟩, 0⟩
    (∃ d, JobRequest.empty.document .standard attachedModel = .ok d) ∧
      (attachedModel.ensureSession (describing []) []).result = .ok "session" ∧
      tally (notesOf step.trace) = .due step.result := by
  intro step
  obtain ⟨-, htally, -⟩ := Model.rightSize_tally_iff (describing []) [] attachedModel .empty
    .standard ⟨⟨0⟩, 0⟩ (d := JobRequest.empty.assemble .standard attachedModel "package" none)
    (s := "session") rfl rfl
  refine ⟨⟨_, rfl⟩, rfl, htally.mpr fun call hc => ?_⟩
  rcases List.mem_cons.mp hc with rfl | hc
  · trivial
  · cases List.mem_singleton.mp hc
    exact ⟨[], rfl⟩

/-- a text in the place of the ranked list is a failure that no observer learns of -/
theorem unreadable_leaves_nothing :
    let service := describing [(recommendationsName, .string "oops")]
    let step := attachedModel.rightSize service [] .empty .standard ⟨⟨0⟩, 0⟩
    (∃ d, JobRequest.empty.document .standard attachedModel = .ok d ∧
        .create "session" d (.ok "job") ∈ callsOf step.trace) ∧
      (attachedModel.ensureSession service []).result = .ok "session" ∧
      (∃ error, step.result = .error (.malformedResults error)) ∧
      tally (notesOf step.trace) = .nothing ∧ tally (notesOf step.trace) ≠ .due step.result := by
  intro service step
  have htally : tally (notesOf step.trace) = .nothing := by decide
  refine ⟨⟨_, rfl, List.mem_cons_self⟩, rfl, ⟨_, rfl⟩, htally, ?_⟩
  rw [htally]
  exact Tally.nothing_ne_due _

end RightSizing
