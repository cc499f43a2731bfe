import RightSizing.Proofs.Job.Steps
import RightSizing.Proofs.Session.Answers
import RightSizing.Proofs.Session.Protocol

/-!
# Trying a job again

A run may give a model its session and changes nothing else of it (`Model.SameButSession`).  A job
document shows neither the session nor the factory, so a request makes the same document before and
after any run, and a job that is tried again submits what it submitted, or would have submitted,
the first time.

* `JobRequest.document_congr`          what a document reads of its model
* `Model.act_sameButSession`, `Campaign.run_sameButSession`   what an action and a run leave alone
* `Ending.submits_iff`                 when a document is submitted, and to which session
* `Campaign.run_resubmits`             all of it, for every place of a run
-/

namespace RightSizing

section
variable {σ φ : Type}

/-- two models that differ in their sessions at most -/
structure Model.SameButSession (m m' : Model σ φ) : Prop where
  role : m'.role = m.role
  reference : m'.reference = m.reference
  framework : m'.framework = m.framework
  frameworkVersion : m'.frameworkVersion = m.frameworkVersion
  factory : m'.factory = m.factory

namespace Model.SameButSession

variable {m m' m'' : Model σ φ}

theorem refl (m : Model σ φ) : m.SameButSession m := ⟨rfl, rfl, rfl, rfl, rfl⟩

theorem withSession (m : Model σ φ) (s : σ) : m.SameButSession (m.withSession s) :=
  ⟨rfl, rfl, rfl, rfl, rfl⟩

theorem trans (h : m.SameButSession m') (h' : m'.SameButSession m'') : m.SameButSession m'' where
  role := h'.role.trans h.role
  reference := h'.reference.trans h.reference
  framework := h'.framework.trans h.framework
  frameworkVersion := h'.frameworkVersion.trans h.frameworkVersion
  factory := h'.factory.trans h.factory

end Model.SameButSession

/-- a document shows neither the session nor the factory of its model -/
theorem JobRequest.document_congr {m m' : Model σ φ} (request : JobRequest)
    (h : m.SameButSession m') (settings : Settings) :
    request.document settings m' = request.document settings m := by
  have harn : m'.packageArn? = m.packageArn? := by
    unfold Model.packageArn?
    rw [h.reference]
  have hassemble : ∀ arn, request.assemble settings m' arn = request.assemble settings m arn := by
    intro arn
    funext configurations
    unfold assemble
    rw [h.role, h.framework, h.frameworkVersion]
  unfold document
  rw [harn]
  cases m.packageArn? with
  | none => rfl
  | some arn =>
    show (EndpointConfiguration.ofSweeps request.sweeps).map _ = _
    rw [hassemble]

/-! ## One action -/

/-- the document went to the session, whatever the answer was -/
def Step.Submits {α : Type} (step : Step σ φ α) (s : σ) (d : JobDocument) : Prop :=
  ∃ answer, .create s d answer ∈ callsOf step.trace

variable {m : Model σ φ} {request : JobRequest} {settings : Settings} {timing : Timing}

theorem Reaching.sameButSession {step : Step σ φ σ} (h : Reaching m step) :
    m.SameButSession step.model := by
  cases h with
  | attached hs => exact .refl m
  | unavailable hs hf => exact .refl m
  | built hs hf => exact .withSession m _
  | unbuilt hs hf => exact .refl m

theorem Ending.sameButSession {step : Step σ φ JobOutcome}
    (h : Ending m request settings timing step) : m.SameButSession step.model := by
  cases h with
  | rejected hd => exact .refl m
  | unreached hd hm => exact hm.sameButSession
  | submitted hd hm hs => exact hm.sameButSession

/-- a document goes to the session that the model has then, and with a session it always goes -/
theorem Ending.submits_iff {step : Step σ φ JobOutcome}
    (h : Ending m request settings timing step) (s : σ) (d : JobDocument) :
    step.Submits s d ↔ request.document settings m = .ok d ∧ step.model.session = some s := by
  constructor
  · rintro ⟨answer, hc⟩
    refine ⟨h.keepsProtocol.document s d answer hc, ?_⟩
    cases h with
    | rejected hd => cases hc
    | unreached hd hm =>
      -- without a session the factory is all that is called
      change _ ∈ callsOf (.note _ :: _) at hc
      rw [callsOf_note] at hc
      obtain ⟨-, -, ⟨-, -, hcalls⟩ | ⟨f, complaint, -, -, hcalls⟩⟩ := hm.calls_of_error
      · rw [hcalls] at hc
        cases hc
      · rw [hcalls] at hc
        cases List.mem_singleton.mp hc
    | submitted hd hm hs =>
      change _ ∈ callsOf (_ ++ _) at hc
      rw [callsOf_append] at hc
      obtain ⟨hsession, hbuilt⟩ := hm.calls_of_ok
      rcases List.mem_append.mp hc with hc | hc
      · rcases hbuilt with hcalls | ⟨f, hcalls⟩
        · rw [hcalls] at hc
          cases hc
        · rw [hcalls] at hc
          cases List.mem_singleton.mp hc
      · have hparty := hs.party _ hc
        cases hparty
        exact hsession
  · rintro ⟨hd, hs⟩
    exact h.keepsProtocol.creates d s hd hs

variable [DecidableEq σ] [DecidableEq φ]

theorem Model.act_sameButSession (service : Service σ φ) (past : List (Call σ φ)) (m : Model σ φ)
    (a : Action) : m.SameButSession (m.act service past a).model := by
  cases a with
  | ensureSession => exact (m.ensureSession_reaching service past).sameButSession
  | rightSize request settings timing =>
    exact (m.rightSize_ending service past request settings timing).sameButSession

end

/-! ## A run -/

namespace Campaign

variable {ι σ φ : Type} [DecidableEq ι] [DecidableEq σ] [DecidableEq φ]

theorem run_sameButSession (service : Service σ φ) (c : Campaign ι σ φ) (i : ι)
    (actions : List (ι × Action)) :
    (c.models i).SameButSession ((run service c actions).1.models i) := by
  refine run_models Model.SameButSession.refl (fun _ _ _ => Model.SameButSession.trans) ?_ c i actions
  exact fun past m a => m.act_sameButSession service past a

/-- an action of a run is done to its model as some part of the run has left it -/
theorem exists_of_mem_zip_run {service : Service σ φ} {c : Campaign ι σ φ}
    {actions : List (ι × Action)} {i : ι} {a : Action} {step : Step σ φ (Reply σ)}
    (h : ((i, a), step) ∈ actions.zip (run service c actions).2) :
    ∃ before, step = (act service (run service c before).1 i a).2 := by
  induction actions generalizing c with
  | nil => cases h
  | cons action actions ih =>
    obtain ⟨j, b⟩ := action
    rw [run_cons, List.zip_cons_cons] at h
    rcases List.mem_cons.mp h with h | h
    · cases h
      exact ⟨[], rfl⟩
    · obtain ⟨before, hstep⟩ := ih h
      exact ⟨(j, b) :: before, hstep⟩

/-- wherever a request stands in a run, its document is the one of the model as it was in the
beginning -/
theorem submits_iff_of_mem_zip_run {service : Service σ φ} {c : Campaign ι σ φ}
    {actions : List (ι × Action)} {i : ι} {request : JobRequest} {settings : Settings}
    {timing : Timing} {step : Step σ φ (Reply σ)}
    (h : ((i, .rightSize request settings timing), step) ∈
      actions.zip (run service c actions).2) (s : σ) (d : JobDocument) :
    step.Submits s d ↔
      request.document settings (c.models i) = .ok d ∧ step.model.session = some s := by
  obtain ⟨before, rfl⟩ := exists_of_mem_zip_run h
  have hsame := run_sameButSession service c i before
  have hend := ((run service c before).1.models i).rightSize_ending service
    (run service c before).1.calls request settings timing
  rw [← request.document_congr hsame settings]
  exact hend.submits_iff s d

/-- **A run changes nothing of a model but its session, so what is tried again is what was tried
before.**  After any run a request makes the document that it made before.  Wherever a request
stands in a run, whatever happened in front of it, it submits this document to the session that the
model has by then; and two jobs of one request never submit different documents. -/
theorem run_resubmits (service : Service σ φ) (c : Campaign ι σ φ) (i : ι)
    (actions : List (ι × Action)) :
    let m := c.models i
    let last := (run service c actions).1.models i
    let done := actions.zip (run service c actions).2
    m.SameButSession last ∧
      (∀ (request : JobRequest) (settings : Settings),
        request.document settings last = request.document settings m) ∧
      ∀ request settings timing first,
        ((i, .rightSize request settings timing), first) ∈ done →
          (∀ s d, first.Submits s d ↔
            request.document settings m = .ok d ∧ first.model.session = some s) ∧
          ∀ timing' second, ((i, .rightSize request settings timing'), second) ∈ done →
            ∀ s d s' d', first.Submits s d → second.Submits s' d' → d' = d := by
  intro m last done
  have hsame : m.SameButSession last := run_sameButSession service c i actions
  refine ⟨hsame, fun request settings => request.document_congr hsame settings, ?_⟩
  intro request settings timing first hfirst
  refine ⟨submits_iff_of_mem_zip_run hfirst, ?_⟩
  intro timing' second hsecond s d s' d' hd hd'
  obtain ⟨hmade, -⟩ := (submits_iff_of_mem_zip_run hfirst s d).mp hd
  obtain ⟨hmade', -⟩ := (submits_iff_of_mem_zip_run hsecond s' d').mp hd'
  exact Except.ok.inj (hmade'.symm.trans hmade)

end Campaign

end RightSizing
