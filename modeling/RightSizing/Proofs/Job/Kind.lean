import RightSizing.Proofs.Job.Bookkeeping
import RightSizing.Proofs.Job.Validation
import RightSizing.Proofs.Session.Protocol

/-!
# What makes a job an advanced one

A job is an advanced one exactly when its request asks for something of a load test, zeros and empty
lists being nothing (`JobRequest.AsksLoadTest`).  Each part of the document is there when its inputs
ask for it, and the kind of the job is read off the parts; from there on it is only handed on, to the
session, to the counter and to the outcome (`Model.rightSize_jobType`).
-/

namespace RightSizing

theorem nonZero?_isSome_iff (limit : Option UInt32) :
    (nonZero? limit).isSome = true ↔ ∃ n, limit = some n ∧ n ≠ 0 := by
  cases limit <;> simp [nonZero?, Option.filter]

theorem EndpointConfiguration.isSome_of_ofSweeps {sweeps : List Sweep}
    {configurations : Option (List EndpointConfiguration)}
    (h : ofSweeps sweeps = .ok configurations) : configurations.isSome = true ↔ sweeps ≠ [] := by
  cases sweeps with
  | nil =>
    cases h
    simp
  | cons s sweeps =>
    rw [ofSweeps] at h
    cases hall : ofAll (s :: sweeps) with
    | error failure => rw [hall] at h; cases h
    | ok all =>
      rw [hall] at h
      cases h
      simp

theorem TrafficPattern.ofPhases?_isSome_iff (trafficType : Option String) (phases : List Phase) :
    (ofPhases? trafficType phases).isSome = true ↔ phases ≠ [] := by
  cases phases <;> simp [ofPhases?]

theorem StoppingConditions.ofLimits?_isSome_iff (maxInvocations : Option UInt32)
    (thresholds : List LatencyThreshold) :
    (ofLimits? maxInvocations thresholds).isSome = true ↔
      (nonZero? maxInvocations).isSome = true ∨ thresholds ≠ [] := by
  unfold ofLimits?
  cases nonZero? maxInvocations <;> cases thresholds <;> simp

theorem ResourceLimit.ofLimits?_isSome_iff (maxTests maxParallelTests : Option UInt32) :
    (ofLimits? maxTests maxParallelTests).isSome = true ↔
      (nonZero? maxTests).isSome = true ∨ (nonZero? maxParallelTests).isSome = true := by
  unfold ofLimits?
  cases nonZero? maxTests <;> cases nonZero? maxParallelTests <;> simp

/-! ## The document -/

namespace JobRequest

/-- what a request says of a load test -/
def loadTest (r : JobRequest) :
    List Sweep × List Phase × Option UInt32 × List LatencyThreshold × Option UInt32 ×
      Option UInt32 :=
  (r.sweeps, r.phases, r.maxInvocations, r.latencyThresholds, r.maxTests, r.maxParallelTests)

def AsksLoadTest (r : JobRequest) : Prop :=
  r.sweeps ≠ [] ∨ r.phases ≠ [] ∨ (∃ n, r.maxInvocations = some n ∧ n ≠ 0) ∨
    r.latencyThresholds ≠ [] ∨ (∃ n, r.maxTests = some n ∧ n ≠ 0) ∨
      ∃ n, r.maxParallelTests = some n ∧ n ≠ 0

theorem asksLoadTest_congr {r r' : JobRequest} (h : r.loadTest = r'.loadTest) :
    r.AsksLoadTest ↔ r'.AsksLoadTest := by
  simp only [loadTest, Prod.mk.injEq] at h
  obtain ⟨hs, hp, hi, hl, ht, hpar⟩ := h
  unfold AsksLoadTest
  rw [hs, hp, hi, hl, ht, hpar]

variable {σ φ : Type} {m : Model σ φ} {request : JobRequest} {settings : Settings}
  {d : JobDocument}

theorem hasAdvancedParameters_iff (hd : request.document settings m = .ok d) :
    d.hasAdvancedParameters = true ↔ request.AsksLoadTest := by
  obtain ⟨arn, configurations, -, hc, rfl⟩ := document_eq_ok_iff.mp hd
  show (_ || _ || _ || _) = true ↔ _
  simp only [Bool.or_eq_true, assemble, EndpointConfiguration.isSome_of_ofSweeps hc,
    TrafficPattern.ofPhases?_isSome_iff, StoppingConditions.ofLimits?_isSome_iff,
    ResourceLimit.ofLimits?_isSome_iff, nonZero?_isSome_iff, AsksLoadTest, or_assoc]

theorem jobType_eq_advanced_iff (hd : request.document settings m = .ok d) :
    d.jobType = .advanced ↔ d.hasAdvancedParameters = true := by
  obtain ⟨arn, configurations, -, -, rfl⟩ := document_eq_ok_iff.mp hd
  have hkind : (request.assemble settings m arn configurations).jobType =
      if (request.assemble settings m arn configurations).hasAdvancedParameters = true
        then .advanced else .default := rfl
  rw [hkind]
  split
  · next h => exact ⟨fun _ => h, fun _ => rfl⟩
  · next h => exact ⟨nofun, fun h' => absurd h' h⟩

/-- the kind depends on what is said of a load test, and on nothing else -/
theorem jobType_eq_of_loadTest_eq {m' : Model σ φ} {request' : JobRequest} {settings' : Settings}
    {d' : JobDocument} (hd : request.document settings m = .ok d)
    (hd' : request'.document settings' m' = .ok d') (h : request'.loadTest = request.loadTest) :
    d'.jobType = d.jobType := by
  have hiff : d'.jobType = .advanced ↔ d.jobType = .advanced := by
    rw [jobType_eq_advanced_iff hd', jobType_eq_advanced_iff hd, hasAdvancedParameters_iff hd',
      hasAdvancedParameters_iff hd, asksLoadTest_congr h]
  cases ht : d.jobType with
  | advanced => exact hiff.mpr ht
  | default =>
    cases ht' : d'.jobType with
    | default => rfl
    | advanced => cases ht.symm.trans (hiff.mp ht')

end JobRequest

/-! ## The job -/

section
variable {σ φ : Type} {m : Model σ φ} {request : JobRequest} {settings : Settings}
  {timing : Timing} {d : JobDocument}

/-- a job with an outcome was submitted once, by a document of the kind of its outcome -/
theorem Ending.of_ok {step : Step σ φ JobOutcome} {o : JobOutcome}
    (h : Ending m request settings timing step) (hd : request.document settings m = .ok d)
    (hr : step.result = .ok o) :
    o.jobType = d.jobType ∧ (∃ s, .create s d (.ok o.jobName) ∈ callsOf step.trace) ∧
      ∀ t, moved (.submitted t) (notesOf step.trace) = if d.jobType = t then 1 else 0 := by
  cases h with
  | rejected hd' => cases hr
  | unreached hd' hm => cases hr
  | submitted hd' hm hs =>
    cases hd.symm.trans hd'
    have hn : notesOf _ = [] := hm.notes
    cases hs with
    | refused complaint => cases hr
    | broken jobName complaint => cases hr
    | unreadable jobName hread => cases hr
    | done jobName hread =>
      cases hr
      refine ⟨rfl, ?_, fun t => ?_⟩
      · show ∃ s, _ ∈ callsOf (_ ++ _)
        rw [callsOf_append]
        exact ⟨_, List.mem_append_right _ List.mem_cons_self⟩
      · show moved _ (.event _ :: notesOf (_ ++ _)) = _
        rw [moved_event, notesOf_append, hn, List.nil_append]
        simp [opening, submissionNotes, completionNotes]

variable [DecidableEq σ] [DecidableEq φ]

/-- **A job is an advanced one exactly when its request asks for something of a load test**, and its
kind is the same wherever it shows: in the document, in the outcome and in the counter that was
moved.  Requests that say the same of a load test make jobs of the same kind. -/
theorem Model.rightSize_jobType (service : Service σ φ) (past : List (Call σ φ)) (m : Model σ φ)
    (request : JobRequest) (settings : Settings) (timing : Timing)
    (hd : request.document settings m = .ok d) :
    let step := m.rightSize service past request settings timing
    (d.jobType = .advanced ↔ d.hasAdvancedParameters = true) ∧
      (d.hasAdvancedParameters = true ↔ request.AsksLoadTest) ∧
      (∀ (m' : Model σ φ) (request' : JobRequest) (settings' : Settings) (d' : JobDocument),
        request'.document settings' m' = .ok d' → request'.loadTest = request.loadTest →
          d'.jobType = d.jobType) ∧
      ∀ o, step.result = .ok o →
        o.jobType = d.jobType ∧ (∃ s, .create s d (.ok o.jobName) ∈ callsOf step.trace) ∧
          (∀ s d' answer, .create s d' answer ∈ callsOf step.trace → d' = d) ∧
            ∀ t, moved (.submitted t) (notesOf step.trace) = if d.jobType = t then 1 else 0 := by
  intro step
  have hend : Ending m request settings timing step :=
    m.rightSize_ending service past request settings timing
  refine ⟨JobRequest.jobType_eq_advanced_iff hd, JobRequest.hasAdvancedParameters_iff hd, ?_, ?_⟩
  · intro m' request' settings' d' hd' h
    exact JobRequest.jobType_eq_of_loadTest_eq hd hd' h
  · intro o hr
    obtain ⟨hkind, hcreated, hmoved⟩ := hend.of_ok hd hr
    refine ⟨hkind, hcreated, fun s d' answer hc => ?_, hmoved⟩
    cases hd.symm.trans (hend.keepsProtocol.document s d' answer hc)
    rfl

end

/-- a limit of zero asks for nothing, a limit on parallel tests asks for a load test -/
def parallelRequest : JobRequest :=
  { JobRequest.empty with maxTests := some 0, maxParallelTests := some 2 }

theorem rightSize_jobType_of_parallelTests :
    let step := attachedModel.rightSize (describing []) [] parallelRequest .standard ⟨⟨0⟩, 0⟩
    ∃ d o, parallelRequest.document .standard attachedModel = .ok d ∧ step.result = .ok o ∧
      d.jobType = .advanced ∧ o.jobType = .advanced ∧
        moved (.submitted .advanced) (notesOf step.trace) = 1 := by
  intro step
  have hd : parallelRequest.document .standard attachedModel =
    .ok (parallelRequest.assemble .standard attachedModel "package" none) := rfl
  obtain ⟨hkind, hparts, -, hrun⟩ := Model.rightSize_jobType (describing []) [] attachedModel
    parallelRequest .standard ⟨⟨0⟩, 0⟩ hd
  have hasks : parallelRequest.AsksLoadTest :=
    .inr (.inr (.inr (.inr (.inr ⟨2, rfl, by decide⟩))))
  have hadvanced := hkind.mpr (hparts.mpr hasks)
  obtain ⟨houtcome, -, -, hmoved⟩ := hrun ⟨"job", .advanced, [], [], 0⟩ rfl
  refine ⟨_, _, hd, rfl, hadvanced, houtcome.trans hadvanced, ?_⟩
  rw [hmoved, if_pos hadvanced]

end RightSizing
