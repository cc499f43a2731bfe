import RightSizing.Proofs.Job.Ending

/-!
# Misuse is found before anything is done

A request for a model that is not registered, or with a sweep that lists no instance types, is
rejected while its document is made; a model without any way to a session is rejected right after.
All of this happens before the first call, and it is the whole of what `Failure.isUsage` means for a
job (`Model.rightSize_usage`).

* `EndpointConfiguration.ofSweeps_eq_error_iff`   what is wrong with a list of sweeps
* `JobRequest.document_eq_error_iff`   what is wrong with a request, and which fault is reported
* `Ending.usage_iff`                   what is wrong with a job
-/

namespace RightSizing

/-- there is no list of instance types, or an empty one -/
def Sweep.LacksInstanceTypes (s : Sweep) : Prop :=
  ∀ c, s.find? instanceTypesName = some c → c.values = []

theorem Sweep.instanceTypes?_eq_none_iff (s : Sweep) :
    s.instanceTypes? = none ↔ s.LacksInstanceTypes := by
  unfold instanceTypes? LacksInstanceTypes
  rw [Option.filter_eq_none_iff]
  simp [Candidates.isEmpty]

namespace EndpointConfiguration

/-- a fault is found wherever it stands in the list -/
theorem ofAll_eq_error_iff {sweeps : List Sweep} {failure : Failure} :
    ofAll sweeps = .error failure ↔
      failure = .missingInstanceTypes ∧ ∃ s ∈ sweeps, s.LacksInstanceTypes := by
  induction sweeps with
  | nil => simp [ofAll]
  | cons s sweeps ih =>
    simp only [ofAll, List.mem_cons, exists_eq_or_imp]
    cases hs : s.instanceTypes? with
    | none =>
      have hl := s.instanceTypes?_eq_none_iff.mp hs
      simp [hl, eq_comm]
    | some types =>
      have hl : ¬ s.LacksInstanceTypes := fun h => by
        cases hs.symm.trans (s.instanceTypes?_eq_none_iff.mpr h)
      simp only [hl, false_or]
      rw [← ih]
      cases ofAll sweeps <;> simp [Except.map]

theorem ofSweeps_eq_error_iff {sweeps : List Sweep} {failure : Failure} :
    ofSweeps sweeps = .error failure ↔
      failure = .missingInstanceTypes ∧ ∃ s ∈ sweeps, s.LacksInstanceTypes := by
  cases sweeps with
  | nil => simp [ofSweeps]
  | cons s sweeps =>
    rw [ofSweeps, ← ofAll_eq_error_iff]
    cases ofAll (s :: sweeps) <;> simp [Except.map]

end EndpointConfiguration

section
variable {σ φ : Type} {m : Model σ φ} {request : JobRequest} {settings : Settings} {timing : Timing}
  {failure : Failure}

/-! ## Documents -/

theorem JobRequest.document_eq_error_iff :
    request.document settings m = .error failure ↔
      failure = .notRegistered ∧ m.isRegistered = false ∨
        failure = .missingInstanceTypes ∧ m.isRegistered = true ∧
          ∃ s ∈ request.sweeps, s.LacksInstanceTypes := by
  unfold document Model.isRegistered
  cases m.packageArn? with
  | none => simp [eq_comm]
  | some arn =>
    simp only [Option.isSome_some, Bool.true_eq_false, and_false, false_or, true_and]
    rw [← EndpointConfiguration.ofSweeps_eq_error_iff]
    cases EndpointConfiguration.ofSweeps request.sweeps <;> simp [Except.map]

/-- a document is put together from the name of the version and the configurations -/
theorem JobRequest.document_eq_ok_iff {d : JobDocument} :
    request.document settings m = .ok d ↔
      ∃ arn configurations, m.packageArn? = some arn ∧
        EndpointConfiguration.ofSweeps request.sweeps = .ok configurations ∧
          request.assemble settings m arn configurations = d := by
  unfold document
  cases m.packageArn? with
  | none => simp
  | some arn => cases EndpointConfiguration.ofSweeps request.sweeps <;> simp [Except.map]

theorem JobRequest.document_isOk_iff :
    (∃ d, request.document settings m = .ok d) ↔
      m.isRegistered = true ∧ ¬ ∃ s ∈ request.sweeps, s.LacksInstanceTypes := by
  constructor
  · rintro ⟨d, hd⟩
    have hne : ∀ failure, request.document settings m ≠ .error failure := by
      intro failure h
      cases hd.symm.trans h
    cases hr : m.isRegistered with
    | false => exact absurd (document_eq_error_iff.mpr (.inl ⟨rfl, hr⟩)) (hne _)
    | true =>
      exact ⟨rfl, fun h => hne _ (document_eq_error_iff.mpr (.inr ⟨rfl, hr, h⟩))⟩
  · rintro ⟨hr, hs⟩
    cases hd : request.document settings m with
    | ok d => exact ⟨d, rfl⟩
    | error failure =>
      rcases document_eq_error_iff.mp hd with ⟨-, h⟩ | ⟨-, -, h⟩
      · cases h.symm.trans hr
      · exact absurd h hs

/-! ## Jobs -/

theorem Submission.of_error {d : JobDocument} {s : σ} {level : LogLevel}
    {rest : List (Effect σ φ)} (h : Submission d s level timing (.error failure, rest)) :
    failure.isUsage = false ∧ callsOf rest ≠ [] := by
  cases h with
  | refused complaint => exact ⟨rfl, List.cons_ne_nil _ _⟩
  | broken jobName complaint => exact ⟨rfl, List.cons_ne_nil _ _⟩
  | unreadable jobName hr => exact ⟨rfl, List.cons_ne_nil _ _⟩

variable {step : Step σ φ JobOutcome}

/-- a job ends in misuse when there is no document, or no way to a session -/
theorem Ending.usage_iff (h : Ending m request settings timing step) (hu : failure.isUsage = true) :
    step.result = .error failure ↔
      request.document settings m = .error failure ∨
        failure = .sessionUnavailable ∧ (∃ d, request.document settings m = .ok d) ∧
          m.session = none ∧ m.factory = none := by
  cases h with
  | rejected hd => simp [hd]
  | unreached hd hm =>
    obtain ⟨-, hs, ⟨rfl, hf, -⟩ | ⟨f, complaint, rfl, hf, -⟩⟩ := hm.calls_of_error
    · simp [hd, hs, hf, eq_comm]
    · simp only [hd, hf, Except.error.injEq, reduceCtorEq, false_or, and_false, iff_false]
      rintro rfl
      cases hu
  | submitted hd hm hs =>
    have hm' : ¬ (m.session = none ∧ m.factory = none) := by
      cases hm with
      | attached hs' => simp [hs']
      | built hs' hf => simp [hf]
    simp only [hd, hm', reduceCtorEq, and_false, or_false, iff_false]
    rintro rfl
    cases hu.symm.trans hs.of_error.1

theorem Ending.isUsage_iff (h : Ending m request settings timing step)
    (hr : step.result = .error failure) :
    failure.isUsage = true ↔ callsOf step.trace = [] := by
  cases h with
  | rejected hd =>
    cases hr
    refine ⟨fun _ => rfl, fun _ => ?_⟩
    rcases JobRequest.document_eq_error_iff.mp hd with ⟨rfl, -⟩ | ⟨rfl, -⟩ <;> rfl
  | unreached hd hm =>
    cases hr
    show _ ↔ callsOf (.note _ :: _) = []
    rw [callsOf_note]
    obtain ⟨-, -, ⟨rfl, -, hc⟩ | ⟨f, complaint, rfl, -, hc⟩⟩ := hm.calls_of_error
    · exact ⟨fun _ => hc, fun _ => rfl⟩
    · rw [hc]
      exact ⟨nofun, nofun⟩
  | submitted hd hm hs =>
    cases hr
    obtain ⟨hu, hc⟩ := hs.of_error
    show _ ↔ callsOf (_ ++ _) = []
    rw [callsOf_append, List.append_eq_nil_iff, hu]
    exact ⟨nofun, fun h => absurd h.2 hc⟩

/-- nothing is left behind but the decision on the kind of the job -/
theorem Ending.untouched (h : Ending m request settings timing step)
    (hr : step.result = .error failure) (hu : failure.isUsage = true) :
    step.model = m ∧ (∀ counter, moved counter (notesOf step.trace) = 0) ∧
      waitsOf (notesOf step.trace) = [] := by
  cases h with
  | rejected hd => exact ⟨rfl, fun _ => rfl, rfl⟩
  | unreached hd hm =>
    cases hr
    cases hm with
    | unavailable hs hf => exact ⟨rfl, fun counter => moved_event counter _ _, rfl⟩
    | unbuilt hs hf => cases hu
  | submitted hd hm hs =>
    cases hr
    cases hu.symm.trans hs.of_error.1

variable [DecidableEq σ] [DecidableEq φ]

/-- **A failed job is misuse exactly when nobody was called**, and then nothing has changed.  The
faults are looked for in this order: the model is not registered, a sweep lists no instance types,
there is neither a session nor a factory. -/
theorem Model.rightSize_usage (service : Service σ φ) (past : List (Call σ φ)) (m : Model σ φ)
    (request : JobRequest) (settings : Settings) (timing : Timing) :
    let step := m.rightSize service past request settings timing
    (∀ failure, step.result = .error failure →
      (failure.isUsage = true ↔ callsOf step.trace = []) ∧
        (failure.isUsage = true → step.model = m ∧
          (∀ counter, moved counter (notesOf step.trace) = 0) ∧
            waitsOf (notesOf step.trace) = [])) ∧
      (step.result = .error .notRegistered ↔ m.isRegistered = false) ∧
      (step.result = .error .missingInstanceTypes ↔
        m.isRegistered = true ∧ ∃ s ∈ request.sweeps, s.LacksInstanceTypes) ∧
      (step.result = .error .sessionUnavailable ↔
        m.isRegistered = true ∧ (¬ ∃ s ∈ request.sweeps, s.LacksInstanceTypes) ∧
          m.session = none ∧ m.factory = none) := by
  intro step
  have h : Ending m request settings timing step :=
    m.rightSize_ending service past request settings timing
  refine ⟨fun failure hr => ⟨h.isUsage_iff hr, h.untouched hr⟩, ?_, ?_, ?_⟩
  · rw [h.usage_iff rfl, JobRequest.document_eq_error_iff]
    simp
  · rw [h.usage_iff rfl, JobRequest.document_eq_error_iff]
    simp
  · rw [h.usage_iff rfl, JobRequest.document_isOk_iff, JobRequest.document_eq_error_iff]
    simp [and_assoc]

end

end RightSizing
