import Mathlib.Algebra.Ring.Nat
import RightSizing.Proofs.Job.Steps
import RightSizing.Proofs.Job.Validation
import RightSizing.Proofs.Session.Answers

/-!
# The books of a run

Each counter stands for a number of calls or of outcomes (`KeepsAccounts`).  The books of traces in a
row are added up (`KeepsAccounts.append`), and every entry stands beside the call that it is made for,
so the books are kept by a job (`Ending.keepsAccounts`) and by every run
(`Campaign.run_keepsAccounts`).

A document that was accepted is closed by an outcome, by a wait that failed, or by a description that
cannot be read.  This is the balance of the books (`Balanced`).
-/

namespace RightSizing

section
variable {σ φ α β : Type}

/-- a document for a job of some kind was accepted -/
@[simp] def Call.submits (t : JobType) : Call σ φ → Bool
  | .create _ d (.ok _) => d.jobType = t
  | _ => false

/-- a session did not create a job, or did not see it through -/
@[simp] def Call.failsJob : Call σ φ → Bool
  | .create _ _ (.error _) => true
  | .wait _ _ _ (.error _) => true
  | _ => false

@[simp] def Call.failsWait : Call σ φ → Bool
  | .wait _ _ _ (.error _) => true
  | _ => false

/-- the job is over, and its description cannot be read -/
def isUnreadable : Except Failure α → Bool
  | .error (.malformedResults _) => true
  | _ => false

theorem isUnreadable_map (f : α → β) (result : Except Failure α) :
    isUnreadable (result.map f) = isUnreadable result := by
  cases result with
  | error failure => cases failure <;> rfl
  | ok a => rfl

/-- a counter holds the number of things that it counts as a word of 64 bits -/
structure KeepsAccounts (trace : List (Effect σ φ)) (outcomes : List JobOutcome) : Prop where
  submitted : ∀ t, moved (.submitted t) (notesOf trace) =
    UInt64.ofNat ((callsOf trace).countP (Call.submits t))
  failures : moved .failures (notesOf trace) = UInt64.ofNat ((callsOf trace).countP Call.failsJob)
  waits : (waitsOf (notesOf trace)).length = outcomes.length
  received : moved .received (notesOf trace) =
    UInt64.ofNat (outcomes.map (·.recommendations.length)).sum
  overrides : ∀ reason, moved (.override reason) (notesOf trace) = 0

namespace KeepsAccounts

variable {trace more : List (Effect σ φ)} {outcomes further : List JobOutcome}

theorem nothing : KeepsAccounts ([] : List (Effect σ φ)) [] :=
  ⟨fun _ => rfl, rfl, rfl, rfl, fun _ => rfl⟩

theorem append (h : KeepsAccounts trace outcomes) (h' : KeepsAccounts more further) :
    KeepsAccounts (trace ++ more) (outcomes ++ further) where
  submitted t := by
    rw [notesOf_append, moved_append, h.submitted, h'.submitted, callsOf_append,
      List.countP_append, UInt64.ofNat_add]
  failures := by
    rw [notesOf_append, moved_append, h.failures, h'.failures, callsOf_append,
      List.countP_append, UInt64.ofNat_add]
  waits := by
    rw [notesOf_append, waitsOf_append, List.length_append, h.waits, h'.waits, List.length_append]
  received := by
    rw [notesOf_append, moved_append, h.received, h'.received, List.map_append, List.sum_append,
      UInt64.ofNat_add]
  overrides reason := by
    rw [notesOf_append, moved_append, h.overrides, h'.overrides, UInt64.add_zero]

variable (d : JobDocument) (s : σ) (jobName : String) (level : LogLevel) (timing : Timing)
  (complaint : Complaint) (results : JobResults) (o : JobOutcome)

theorem decision : KeepsAccounts [(decision d : Effect σ φ)] [] := by
  constructor <;> simp [RightSizing.decision]

theorem refused :
    KeepsAccounts (φ := φ) (opening d s (.error complaint) ++
      failureNotes d.packageArn d.jobName complaint) [] := by
  constructor <;> simp [opening, failureNotes]

theorem accepted :
    KeepsAccounts (φ := φ) (opening d s (.ok jobName) ++ submissionNotes d jobName) [] := by
  constructor
  case submitted =>
    intro t
    by_cases h : d.jobType = t <;> simp [opening, submissionNotes, h]
  all_goals simp [opening, submissionNotes]

theorem broken :
    KeepsAccounts (.call (.wait s jobName level (.error complaint)) ::
      failureNotes (φ := φ) d.packageArn (some jobName) complaint) [] := by
  constructor <;> simp [failureNotes]

theorem unreadable :
    KeepsAccounts (φ := φ) [.call (.wait s jobName level (.ok results))] [] := by
  constructor <;> simp

theorem done :
    KeepsAccounts (.call (.wait s jobName level (.ok results)) ::
      completionNotes (φ := φ) d.packageArn o timing) [o] := by
  constructor <;> simp [completionNotes]

end KeepsAccounts

/-! ## The balance -/

def Balanced (calls : List (Call σ φ)) (outcomes unreadable : Nat) : Prop :=
  calls.countP (Call.submits .default) + calls.countP (Call.submits .advanced) =
    outcomes + calls.countP Call.failsWait + unreadable

theorem Balanced.append {calls more : List (Call σ φ)} {outcomes further unreadable others : Nat}
    (h : Balanced calls outcomes unreadable) (h' : Balanced more further others) :
    Balanced (calls ++ more) (outcomes + further) (unreadable + others) := by
  unfold Balanced at *
  simp only [List.countP_append]
  omega

/-- a document is accepted for a job of one kind, and its job is closed once -/
theorem Balanced.of_accepted (d : JobDocument) (s : σ) (jobName : String) (level : LogLevel)
    {answer : Except Complaint JobResults} {outcomes unreadable : Nat}
    (h : outcomes + (if answer.isOk then 0 else 1) + unreadable = 1) :
    Balanced ([.create s d (.ok jobName), .wait s jobName level answer] : List (Call σ φ)) outcomes
      unreadable := by
  have hsubmits : ∀ t, ([.create s d (.ok jobName), .wait s jobName level answer] :
      List (Call σ φ)).countP (Call.submits t) = if d.jobType = t then 1 else 0 := by
    intro t
    rw [List.countP_cons, List.countP_cons]
    simp
  have hfails : ([.create s d (.ok jobName), .wait s jobName level answer] :
      List (Call σ φ)).countP Call.failsWait = if answer.isOk then 0 else 1 := by
    cases answer <;> rfl
  unfold Balanced
  rw [hsubmits, hsubmits, hfails, h]
  cases d.jobType <;> rfl

/-! ## One job -/

variable {m : Model σ φ} {d : JobDocument} {s : σ} {level : LogLevel} {request : JobRequest}
  {settings : Settings} {timing : Timing} {result : Except Failure JobOutcome}
  {rest : List (Effect σ φ)}

theorem Reaching.keepsAccounts {step : Step σ φ σ} (h : Reaching m step) :
    KeepsAccounts step.trace [] := by
  cases h <;> constructor <;> simp

theorem Reaching.balanced {step : Step σ φ σ} (h : Reaching m step) :
    Balanced (callsOf step.trace) 0 (if isUnreadable step.result then 1 else 0) := by
  cases h <;> rfl

theorem Submission.keepsAccounts (h : Submission d s level timing (result, rest)) :
    KeepsAccounts rest result.toOption.toList := by
  cases h with
  | refused complaint => exact .refused d s complaint
  | broken jobName complaint =>
    exact (KeepsAccounts.accepted d s jobName).append (.broken d s jobName level complaint)
  | unreadable jobName hr =>
    exact (KeepsAccounts.accepted d s jobName).append (.unreadable s jobName level _)
  | done jobName hr =>
    exact (KeepsAccounts.accepted d s jobName).append (.done d s jobName level timing _ _)

theorem Submission.balanced (h : Submission d s level timing (result, rest)) :
    Balanced (callsOf rest) result.toOption.toList.length
      (if isUnreadable result then 1 else 0) := by
  cases h with
  | refused complaint => rfl
  | broken jobName complaint => exact .of_accepted d s jobName level rfl
  | unreadable jobName hr => exact .of_accepted d s jobName level rfl
  | done jobName hr => exact .of_accepted d s jobName level rfl

variable {step : Step σ φ JobOutcome}

theorem Ending.keepsAccounts (h : Ending m request settings timing step) :
    KeepsAccounts step.trace step.result.toOption.toList := by
  cases h with
  | rejected hd => exact .nothing
  | unreached hd hm => exact (KeepsAccounts.decision _).append hm.keepsAccounts
  | submitted hd hm hs =>
    exact (KeepsAccounts.decision _).append (hm.keepsAccounts.append hs.keepsAccounts)

theorem Ending.balanced (h : Ending m request settings timing step) :
    Balanced (callsOf step.trace) step.result.toOption.toList.length
      (if isUnreadable step.result then 1 else 0) := by
  cases h with
  | rejected hd =>
    rcases JobRequest.document_eq_error_iff.mp hd with ⟨rfl, -⟩ | ⟨rfl, -⟩ <;> rfl
  | unreached hd hm =>
    obtain ⟨-, -, ⟨rfl, -, -⟩ | ⟨f, complaint, rfl, -, -⟩⟩ := hm.calls_of_error <;>
      exact hm.balanced
  | submitted hd hm hs =>
    -- a session was reached, which puts nothing on either side
    show Balanced (callsOf (_ ++ _)) _ _
    rw [callsOf_append]
    have hreach : Balanced (callsOf _) 0 0 := hm.balanced
    have h := hreach.append hs.balanced
    rwa [Nat.zero_add, Nat.zero_add] at h

/-! ## A run -/

variable [DecidableEq σ] [DecidableEq φ]

theorem Model.act_keepsAccounts (service : Service σ φ) (past : List (Call σ φ)) (m : Model σ φ)
    (a : Action) :
    let step := m.act service past a
    KeepsAccounts step.trace (step.result.toOption.bind Reply.outcome?).toList ∧
      Balanced (callsOf step.trace) (step.result.toOption.bind Reply.outcome?).toList.length
        (if isUnreadable step.result then 1 else 0) := by
  cases a with
  | ensureSession =>
    have h := m.ensureSession_reaching service past
    rw [Model.act, Step.map]
    dsimp only
    rw [outcome?_map_session, isUnreadable_map]
    exact ⟨h.keepsAccounts, h.balanced⟩
  | rightSize request settings timing =>
    have h := m.rightSize_ending service past request settings timing
    rw [Model.act, Step.map]
    dsimp only
    rw [outcome?_map_outcome, isUnreadable_map]
    exact ⟨h.keepsAccounts, h.balanced⟩

end

namespace Campaign

variable {ι σ φ : Type} [DecidableEq ι] [DecidableEq σ] [DecidableEq φ]

theorem run_books (service : Service σ φ) (c : Campaign ι σ φ) (actions : List (ι × Action)) :
    let steps := (run service c actions).2
    KeepsAccounts (traceOf steps) (outcomesOf steps) ∧
      Balanced (callsOf (traceOf steps)) (outcomesOf steps).length
        (steps.countP fun step => isUnreadable step.result) := by
  refine run_induction (motive := fun steps => KeepsAccounts (traceOf steps) (outcomesOf steps) ∧
    Balanced (callsOf (traceOf steps)) (outcomesOf steps).length
      (steps.countP fun step => isUnreadable step.result)) ⟨.nothing, rfl⟩ ?_ c actions
  intro past m a steps ih
  -- the books of the action in front are added to those of the steps after it
  obtain ⟨hkeeps, hbalanced⟩ := m.act_keepsAccounts service past a
  rw [traceOf_cons, outcomesOf_cons, callsOf_append, List.length_append, List.countP_cons,
    Nat.add_comm (steps.countP _)]
  exact ⟨hkeeps.append ih.1, hbalanced.append ih.2⟩

/-- **The counters of a run count its calls and its outcomes**, whatever the models, the requests and
the answers are: accepted documents by kind, calls that failed, outcomes, and recommendations.  The
calls are those that the run made, with the answers that the service gave.  A document that was
accepted is closed by an outcome, by a wait that failed or by a description that cannot be read. -/
theorem run_keepsAccounts (service : Service σ φ) (c : Campaign ι σ φ)
    (actions : List (ι × Action)) :
    let steps := (run service c actions).2
    let calls := callsOf (traceOf steps)
    let notes := notesOf (traceOf steps)
    KeepsAccounts (traceOf steps) (outcomesOf steps) ∧
      Balanced calls (outcomesOf steps).length
        (steps.countP fun step => isUnreadable step.result) ∧
      moved (.submitted .default) notes + moved (.submitted .advanced) notes =
        UInt64.ofNat ((outcomesOf steps).length + calls.countP Call.failsWait +
          steps.countP fun step => isUnreadable step.result) ∧
      (run service c actions).1.calls = c.calls ++ calls ∧ Answered service c.calls calls := by
  intro steps calls notes
  obtain ⟨hkeeps, hbalanced⟩ := run_books service c actions
  refine ⟨hkeeps, hbalanced, ?_, ?_, ?_⟩
  · rw [hkeeps.submitted, hkeeps.submitted, ← UInt64.ofNat_add, hbalanced]
  · rw [run_calls, ← callsOf_traceOf]
  · have h := run_answered service c actions
    rwa [← callsOf_traceOf] at h

end Campaign

end RightSizing
