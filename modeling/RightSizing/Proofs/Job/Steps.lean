import RightSizing.Job.Campaign
import RightSizing.Proofs.Session.Trace

/-!
# Reading a run

The traces of the steps of a run in a row (`traceOf`), and the outcomes that its jobs returned
(`outcomesOf`).  What holds of no steps and is kept by every action that is put in front holds of
every run (`Campaign.run_induction`); and what an action makes of its model, a run makes of every
model, step by step (`Campaign.run_models`).
-/

namespace RightSizing

section
variable {σ φ α : Type}

def traceOf (steps : List (Step σ φ α)) : List (Effect σ φ) := steps.flatMap Step.trace

theorem traceOf_cons (step : Step σ φ α) (steps : List (Step σ φ α)) :
    traceOf (step :: steps) = step.trace ++ traceOf steps := rfl

theorem callsOf_traceOf (steps : List (Step σ φ α)) :
    callsOf (traceOf steps) = steps.flatMap fun step => callsOf step.trace := by
  induction steps with
  | nil => rfl
  | cons step steps ih => rw [traceOf_cons, callsOf_append, ih, List.flatMap_cons]

/-- a session is no outcome -/
def Reply.outcome? : Reply σ → Option JobOutcome
  | .session _ => none
  | .outcome o => some o

theorem outcome?_map_session (result : Except Failure σ) :
    (result.map Reply.session).toOption.bind Reply.outcome? = none := by
  cases result <;> rfl

theorem outcome?_map_outcome (result : Except Failure JobOutcome) :
    (result.map (Reply.outcome (σ := σ))).toOption.bind Reply.outcome? = result.toOption := by
  cases result <;> rfl

def outcomesOf (steps : List (Step σ φ (Reply σ))) : List JobOutcome :=
  steps.filterMap fun step => step.result.toOption.bind Reply.outcome?

theorem outcomesOf_cons (step : Step σ φ (Reply σ)) (steps : List (Step σ φ (Reply σ))) :
    outcomesOf (step :: steps) =
      (step.result.toOption.bind Reply.outcome?).toList ++ outcomesOf steps := by
  unfold outcomesOf
  rw [List.filterMap_cons]
  cases step.result.toOption.bind Reply.outcome? <;> rfl

end

namespace Campaign

variable {ι σ φ : Type} [DecidableEq ι] [DecidableEq σ] [DecidableEq φ] {service : Service σ φ}

/-- whatever is done next, and whatever was called before, is one action on one model -/
theorem run_induction {motive : List (Step σ φ (Reply σ)) → Prop} (nil : motive [])
    (cons : ∀ past (m : Model σ φ) a steps,
      motive steps → motive (m.act service past a :: steps))
    (c : Campaign ι σ φ) (actions : List (ι × Action)) : motive (run service c actions).2 := by
  induction actions generalizing c with
  | nil => exact nil
  | cons action actions ih =>
    obtain ⟨i, a⟩ := action
    rw [run_cons]
    exact cons c.calls (c.models i) a _ (ih (act service c i a).1)

/-- a relation that follows from every action on a model follows from every run -/
theorem run_models {r : Model σ φ → Model σ φ → Prop} (refl : ∀ m, r m m)
    (trans : ∀ m m' m'', r m m' → r m' m'' → r m m'')
    (step : ∀ past m a, r m (Model.act service past m a).model) (c : Campaign ι σ φ) (i : ι)
    (actions : List (ι × Action)) : r (c.models i) ((run service c actions).1.models i) := by
  induction actions generalizing c with
  | nil => exact refl (c.models i)
  | cons action actions ih =>
    obtain ⟨j, a⟩ := action
    rw [run_cons]
    refine trans _ _ _ ?_ (ih (act service c j a).1)
    show r (c.models i) (setModel c.models j _ i)
    -- what is done to another model leaves this one as it is
    by_cases hij : i = j
    · rw [hij, setModel_self]
      exact step c.calls (c.models j) a
    · rw [setModel_of_ne _ _ hij]
      exact refl (c.models i)

end Campaign

end RightSizing
