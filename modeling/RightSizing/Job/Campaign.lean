import RightSizing.Job.Run

/-!
# Campaigns: many actions on many models

A `Campaign` is a family of models and the calls that were made for them so far.  An `Action` on one
of them reaches its session or runs a job; it changes that model only, and adds its calls to the
history that all parties answer by.

* `Model.act`      one action on one model
* `Campaign.act`   one action on one model of a campaign
* `Campaign.run`   a list of actions in order, each on the model it names
-/

namespace RightSizing

/-- what can be asked of a model -/
inductive Action where
  | ensureSession
  | rightSize (request : JobRequest) (settings : Settings) (timing : Timing)

/-- what an action gives -/
inductive Reply (σ : Type) where
  | session (s : σ)
  | outcome (o : JobOutcome)

section
variable {ι σ φ α β : Type}

/-- the same step with another result -/
def Step.map (f : α → β) (s : Step σ φ α) : Step σ φ β := ⟨s.result.map f, s.model, s.trace⟩

variable [DecidableEq σ] [DecidableEq φ]

def Model.act (service : Service σ φ) (past : List (Call σ φ)) (m : Model σ φ) :
    Action → Step σ φ (Reply σ)
  | .ensureSession => (m.ensureSession service past).map .session
  | .rightSize request settings timing =>
    (m.rightSize service past request settings timing).map .outcome

end

structure Campaign (ι σ φ : Type) where
  models : ι → Model σ φ
  calls : List (Call σ φ)

namespace Campaign

variable {ι σ φ : Type} [DecidableEq ι]

/-- puts a model in the place of another -/
def setModel (models : ι → Model σ φ) (i : ι) (m : Model σ φ) : ι → Model σ φ :=
  fun j => if j = i then m else models j

theorem setModel_self (models : ι → Model σ φ) (i : ι) (m : Model σ φ) :
    setModel models i m i = m := by simp [setModel]

theorem setModel_of_ne (models : ι → Model σ φ) {i j : ι} (m : Model σ φ) (h : j ≠ i) :
    setModel models i m j = models j := by simp [setModel, h]

variable [DecidableEq σ] [DecidableEq φ]

def act (service : Service σ φ) (c : Campaign ι σ φ) (i : ι) (a : Action) :
    Campaign ι σ φ × Step σ φ (Reply σ) :=
  let step := (c.models i).act service c.calls a
  (⟨setModel c.models i step.model, c.calls ++ callsOf step.trace⟩, step)

def run (service : Service σ φ) (c : Campaign ι σ φ) :
    List (ι × Action) → Campaign ι σ φ × List (Step σ φ (Reply σ))
  | [] => (c, [])
  | (i, a) :: actions =>
    let (next, step) := act service c i a
    let (last, steps) := run service next actions
    (last, step :: steps)

theorem run_nil (service : Service σ φ) (c : Campaign ι σ φ) : run service c [] = (c, []) := rfl

theorem run_cons (service : Service σ φ) (c : Campaign ι σ φ) (i : ι) (a : Action)
    (actions : List (ι × Action)) :
    run service c ((i, a) :: actions) =
      ((run service (act service c i a).1 actions).1,
        (act service c i a).2 :: (run service (act service c i a).1 actions).2) := rfl

theorem run_append (service : Service σ φ) (c : Campaign ι σ φ) (actions more : List (ι × Action)) :
    run service c (actions ++ more) =
      ((run service (run service c actions).1 more).1,
        (run service c actions).2 ++ (run service (run service c actions).1 more).2) := by
  induction actions generalizing c with
  | nil => rfl
  | cons action actions ih => rw [List.cons_append, run_cons, ih, run_cons, List.cons_append]

end Campaign

end RightSizing
