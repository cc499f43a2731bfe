import RightSizing.Proofs.Job.Given

/-!
# Resolved defaults can be replayed

A document shows what became of everything that its request left open or gave as a blank.  Written
back into the request (`JobRequest.replay`), these values make the same document again.  Nothing is
left for the settings to decide then, but for a duration that nobody gave; and a label that was
resolved once is not looked up again, so the framework detected on the model does not count either.

* `JobRequest.assemble_replay`        every part of the document is made again
* `JobRequest.document_replay_iff`    with which settings, and for which models
* `JobRequest.document_replay`        what a document can be made from again
-/

namespace RightSizing

/-- the type that stands in a pattern makes the pattern again, whatever the default is -/
theorem TrafficPattern.ofPhases?_replay (trafficType : Option String) (default : String)
    (phases : List Phase) :
    ofPhases? (some
        ((nonBlank? ((ofPhases? trafficType phases).map TrafficPattern.trafficType)).getD default))
        phases = ofPhases? trafficType phases := by
  cases phases with
  | nil => rfl
  | cons phase phases =>
    have hne := resolvedType_ne_blank trafficType
    have hpattern : ofPhases? trafficType (phase :: phases) =
      some ⟨phase :: phases, (nonBlank? trafficType).getD defaultType⟩ := rfl
    rw [hpattern, Option.map_some, nonBlank?_of_ne hne, Option.getD_some, ofPhases?,
      nonBlank?_of_ne hne, Option.getD_some]

theorem StoppingConditions.ofLimits?_replay (maxInvocations : Option UInt32)
    (thresholds : List LatencyThreshold) :
    ofLimits? ((ofLimits? maxInvocations thresholds).bind StoppingConditions.maxInvocations)
        (((ofLimits? maxInvocations thresholds).map latencyThresholds).getD []) =
      ofLimits? maxInvocations thresholds := by
  cases h : ofLimits? maxInvocations thresholds with
  | none => rfl
  | some c =>
    obtain ⟨hgiven, rfl⟩ := ofLimits?_eq_some_iff.mp h
    refine ofLimits?_eq_some_iff.mpr ⟨?_, ?_⟩
    · simpa only [Option.bind_some, Option.map_some, Option.getD_some, nonZero?_nonZero?]
        using hgiven
    · simp only [Option.bind_some, Option.map_some, Option.getD_some, nonZero?_nonZero?]

theorem ResourceLimit.ofLimits?_replay (maxTests maxParallelTests : Option UInt32) :
    ofLimits? ((ofLimits? maxTests maxParallelTests).bind maxNumberOfTests)
        ((ofLimits? maxTests maxParallelTests).bind maxParallelOfTests) =
      ofLimits? maxTests maxParallelTests := by
  cases h : ofLimits? maxTests maxParallelTests with
  | none => rfl
  | some l =>
    obtain ⟨hgiven, rfl⟩ := ofLimits?_eq_some_iff.mp h
    refine ofLimits?_eq_some_iff.mpr ⟨?_, ?_⟩
    · simpa only [Option.bind_some, nonZero?_nonZero?] using hgiven
    · simp only [Option.bind_some, nonZero?_nonZero?]

/-! ## The document -/

namespace JobRequest

/-- the request with the values that stand in a document in the place of its own -/
def replay (r : JobRequest) (d : JobDocument) : JobRequest :=
  { r with
    framework := d.framework
    jobDuration := d.jobDuration
    trafficType := d.trafficPattern.map TrafficPattern.trafficType
    maxInvocations := d.stoppingConditions.bind StoppingConditions.maxInvocations
    latencyThresholds := (d.stoppingConditions.map StoppingConditions.latencyThresholds).getD []
    maxTests := d.resourceLimit.bind ResourceLimit.maxNumberOfTests
    maxParallelTests := d.resourceLimit.bind ResourceLimit.maxParallelOfTests }

variable {σ φ : Type} {m m' : Model σ φ} {request : JobRequest} {settings : Settings}
  {d : JobDocument}

/-- all is as it was, but for a duration that the new settings may add -/
theorem assemble_replay {arn : String} {configurations : Option (List EndpointConfiguration)}
    (hd : request.assemble settings m arn configurations = d) (hrole : m'.role = m.role)
    (hversion : m'.frameworkVersion = m.frameworkVersion)
    (hframework : Framework.resolve d.framework m'.framework = d.framework) (s : Settings) :
    (request.replay d).assemble s m' arn configurations =
      { d with jobDuration := d.jobDuration.or s.jobDuration } := by
  subst hd
  have htraffic := TrafficPattern.ofPhases?_replay (some (request.resolvedTrafficType settings))
    s.trafficType request.phases
  have hstopping := StoppingConditions.ofLimits?_replay request.maxInvocations
    request.latencyThresholds
  have hlimit := ResourceLimit.ofLimits?_replay request.maxTests request.maxParallelTests
  simp only [assemble, replay, resolvedTrafficType] at htraffic hframework ⊢
  simp only [hrole, hversion, hframework, htraffic, hstopping, hlimit]
  rfl

theorem document_replay_iff (hd : request.document settings m = .ok d) (m' : Model σ φ)
    (hreference : m'.reference = m.reference) (hrole : m'.role = m.role)
    (hversion : m'.frameworkVersion = m.frameworkVersion)
    (hframework : Framework.resolve d.framework m'.framework = d.framework) (s : Settings) :
    (request.replay d).document s m' = .ok d ↔ (d.jobDuration = none → s.jobDuration = none) := by
  obtain ⟨arn, configurations, harn, hc, hassemble⟩ := document_eq_ok_iff.mp hd
  have harn' : m'.packageArn? = some arn := by
    rw [← harn]
    unfold Model.packageArn?
    rw [hreference]
  have hdocument : (request.replay d).document s m' =
      .ok { d with jobDuration := d.jobDuration.or s.jobDuration } :=
    document_eq_ok_iff.mpr ⟨arn, configurations, harn', hc,
      assemble_replay hassemble hrole hversion hframework s⟩
  have hsame : ∀ duration, { d with jobDuration := duration } = d ↔ duration = d.jobDuration :=
    fun duration => ⟨congrArg JobDocument.jobDuration, fun h => by rw [h]⟩
  rw [hdocument, Except.ok.injEq, hsame]
  cases d.jobDuration <;> simp

/-- **A document can be made again from the values that stand in it**, with any settings that do not
add a duration where it has none.  With a framework in it, it can be made so for whatever framework
is detected; and a label stands for itself. -/
theorem document_replay (hd : request.document settings m = .ok d) :
    (request.replay d).document settings m = .ok d ∧
      (∀ s, (request.replay d).document s m = .ok d ↔
        (d.jobDuration = none → s.jobDuration = none)) ∧
      (d.framework ≠ none → ∀ s detected,
        (request.replay d).document s (m.withFramework detected) = .ok d ↔
          (d.jobDuration = none → s.jobDuration = none)) ∧
      ∀ detected, Framework.label (Framework.label detected) = Framework.label detected := by
  obtain ⟨arn, configurations, -, -, hassemble⟩ := document_eq_ok_iff.mp hd
  have hduration : d.jobDuration = request.jobDuration.or settings.jobDuration := by
    rw [← hassemble]
    rfl
  have hresolved : d.framework = Framework.resolve request.framework m.framework := by
    rw [← hassemble]
    rfl
  have hagain : ∀ s, (request.replay d).document s m = .ok d ↔
      (d.jobDuration = none → s.jobDuration = none) := by
    refine document_replay_iff hd m rfl rfl rfl ?_
    rw [hresolved, Framework.resolve_resolve]
  refine ⟨(hagain settings).mpr fun hnone => ?_, hagain, fun hne s detected => ?_,
    Framework.label_label⟩
  · rw [hduration, Option.or_eq_none_iff] at hnone
    exact hnone.2
  · obtain ⟨framework, hframework⟩ := Option.ne_none_iff_exists'.mp hne
    refine document_replay_iff hd (m.withFramework detected) rfl rfl rfl ?_ s
    rw [hframework]
    exact Framework.resolve_of_eq_some (hresolved.symm.trans hframework) (some detected)

end JobRequest

/-- phases and little else, so that most is left to the settings and to the model -/
def openRequest : JobRequest :=
  { JobRequest.empty with phases := [⟨60, 1, 1⟩], maxTests := some 0, maxParallelTests := some 2 }

theorem document_replay_of_open :
    let m : Model Unit Unit := (Model.ofPackage "role" "package").withFramework "sklearn"
    ∃ d, openRequest.document ⟨.verbose, some 7200, "STAIRS"⟩ m = .ok d ∧
      d.framework = some "SAGEMAKER-SCIKIT-LEARN" ∧
      d.trafficPattern = some ⟨[⟨60, 1, 1⟩], "STAIRS"⟩ ∧
      (openRequest.replay d).document .standard (m.withFramework "xgboost") = .ok d := by
  intro m
  have hd : openRequest.document ⟨.verbose, some 7200, "STAIRS"⟩ m = .ok _ := rfl
  obtain ⟨-, -, hagain, -⟩ := JobRequest.document_replay hd
  exact ⟨_, hd, rfl, rfl, (hagain nofun .standard "xgboost").mpr nofun⟩

end RightSizing
