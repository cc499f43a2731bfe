import RightSizing.Proofs.Job.Given

/-!
# Blank means absent, and nothing else does

Two callers who differ in blanks only get the same document, or the same failure: an empty text
stands for no text, a limit of zero for no limit, and an empty default for the type of traffic that
everybody gets.  Without phases the types of traffic do not count at all, and what is shown while
waiting never does (`JobInputs.Alike`).

Nothing but a blank is taken for nothing: to every other value of a parameter there are inputs whose
documents tell it from its absence (`Indistinct`).

* `JobInputs.Alike.document_eq`     documents of inputs that differ in blanks
* `JobInputs.blank_means_absent`    both directions, for every parameter that has a blank
-/

namespace RightSizing

/-- the same value, or two of the blanks -/
def SameUpTo (blanks : List α) (a b : α) : Prop := a = b ∨ a ∈ blanks ∧ b ∈ blanks

namespace SameUpTo

variable {blanks : List α} {a b : α}

theorem refl (blanks : List α) (a : α) : SameUpTo blanks a a := .inl rfl

/-- what takes all blanks alike does not tell the two apart -/
theorem congr {c : β} (h : SameUpTo blanks a b) (f : α → β) (hf : ∀ x ∈ blanks, f x = c) :
    f a = f b := by
  rcases h with rfl | ⟨ha, hb⟩
  · rfl
  · rw [hf a ha, hf b hb]

theorem nonBlank?_eq {s t : Option String} (h : SameUpTo [none, some ""] s t) :
    nonBlank? s = nonBlank? t :=
  h.congr nonBlank? fun _ hx => nonBlank?_eq_none_iff.mpr hx

theorem nonZero?_eq {m n : Option UInt32} (h : SameUpTo [none, some 0] m n) :
    nonZero? m = nonZero? n :=
  h.congr nonZero? fun _ hx => nonZero?_eq_none_iff.mpr hx

end SameUpTo

/-- all that a document is made from -/
structure JobInputs (σ φ : Type) where
  request : JobRequest
  settings : Settings
  model : Model σ φ

namespace JobInputs

variable {σ φ : Type}

def document (x : JobInputs σ φ) : Except Failure JobDocument :=
  x.request.document x.settings x.model

/-- the inputs differ in blanks, in what is shown while waiting, in the way to a session and,
without phases, in the types of a traffic that there is not -/
structure Alike (x y : JobInputs σ φ) : Prop where
  role : x.model.role = y.model.role
  reference : x.model.reference = y.model.reference
  frameworkVersion : x.model.frameworkVersion = y.model.frameworkVersion
  samplePayloadUrl : x.request.samplePayloadUrl = y.request.samplePayloadUrl
  contentTypes : x.request.contentTypes = y.request.contentTypes
  instanceTypes : x.request.instanceTypes = y.request.instanceTypes
  jobName : x.request.jobName = y.request.jobName
  jobDuration : x.request.jobDuration = y.request.jobDuration
  defaultDuration : x.settings.jobDuration = y.settings.jobDuration
  sweeps : x.request.sweeps = y.request.sweeps
  phases : x.request.phases = y.request.phases
  latencyThresholds : x.request.latencyThresholds = y.request.latencyThresholds
  explicitFramework : SameUpTo [none, some ""] x.request.framework y.request.framework
  detectedFramework : SameUpTo [none, some ""] x.model.framework y.model.framework
  trafficType : x.request.phases ≠ [] →
    SameUpTo [none, some ""] x.request.trafficType y.request.trafficType
  defaultType : x.request.phases ≠ [] →
    SameUpTo ["", "PHASES"] x.settings.trafficType y.settings.trafficType
  maxInvocations : SameUpTo [none, some 0] x.request.maxInvocations y.request.maxInvocations
  maxTests : SameUpTo [none, some 0] x.request.maxTests y.request.maxTests
  maxParallelTests :
    SameUpTo [none, some 0] x.request.maxParallelTests y.request.maxParallelTests

namespace Alike

theorem refl (x : JobInputs σ φ) : x.Alike x :=
  ⟨rfl, rfl, rfl, rfl, rfl, rfl, rfl, rfl, rfl, rfl, rfl, rfl, .refl _ _, .refl _ _,
    fun _ => .refl _ _, fun _ => .refl _ _, .refl _ _, .refl _ _, .refl _ _⟩

variable {x y : JobInputs σ φ}

theorem framework_eq (h : x.Alike y) :
    Framework.resolve x.request.framework x.model.framework =
      Framework.resolve y.request.framework y.model.framework := by
  unfold Framework.resolve
  rw [h.explicitFramework.nonBlank?_eq, h.detectedFramework.nonBlank?_eq]

/-- with a blank default, or with the one that everybody gets, the request decides alone -/
theorem trafficPattern_eq (h : x.Alike y) :
    TrafficPattern.ofPhases? (some (x.request.resolvedTrafficType x.settings)) x.request.phases =
      TrafficPattern.ofPhases? (some (y.request.resolvedTrafficType y.settings))
        y.request.phases := by
  have htype := h.trafficType
  have hdefault := h.defaultType
  rw [← h.phases]
  cases hphases : x.request.phases with
  | nil => rfl
  | cons phase phases =>
    have hne : x.request.phases ≠ [] := by simp [hphases]
    have hblank : ∀ t ∈ ["", "PHASES"],
        ((nonBlank? y.request.trafficType).or (nonBlank? (some t))).getD
            TrafficPattern.defaultType =
          (nonBlank? y.request.trafficType).getD TrafficPattern.defaultType := by
      intro t ht
      cases nonBlank? y.request.trafficType with
      | some given => rfl
      | none => revert t; decide
    have hresolved := (hdefault hne).congr _ hblank
    rw [TrafficPattern.ofPhases?, TrafficPattern.ofPhases?, JobRequest.trafficType_resolved,
      JobRequest.trafficType_resolved, (htype hne).nonBlank?_eq, hresolved]

theorem stoppingConditions_eq (h : x.Alike y) :
    StoppingConditions.ofLimits? x.request.maxInvocations x.request.latencyThresholds =
      StoppingConditions.ofLimits? y.request.maxInvocations y.request.latencyThresholds := by
  unfold StoppingConditions.ofLimits?
  rw [h.maxInvocations.nonZero?_eq, h.latencyThresholds]

theorem resourceLimit_eq (h : x.Alike y) :
    ResourceLimit.ofLimits? x.request.maxTests x.request.maxParallelTests =
      ResourceLimit.ofLimits? y.request.maxTests y.request.maxParallelTests := by
  unfold ResourceLimit.ofLimits?
  rw [h.maxTests.nonZero?_eq, h.maxParallelTests.nonZero?_eq]

theorem document_eq (h : x.Alike y) : x.document = y.document := by
  have hassemble : x.request.assemble x.settings x.model =
      y.request.assemble y.settings y.model := by
    funext arn configurations
    simp only [JobRequest.assemble, h.role, h.frameworkVersion, h.samplePayloadUrl, h.contentTypes,
      h.instanceTypes, h.jobName, h.jobDuration, h.defaultDuration, h.framework_eq,
      h.trafficPattern_eq, h.stoppingConditions_eq, h.resourceLimit_eq]
  have harn : x.model.packageArn? = y.model.packageArn? := by
    unfold Model.packageArn?
    rw [h.reference]
  unfold document JobRequest.document
  rw [harn, h.sweeps, hassemble]

end Alike

/-- no document tells one value of a parameter from another -/
def Indistinct (put : α → JobInputs σ φ → JobInputs σ φ) (a b : α) : Prop :=
  ∀ x, (put a x).document = (put b x).document

theorem indistinct_iff {put : α → JobInputs σ φ → JobInputs σ φ} {blanks : List α} {a b : α}
    (hb : b ∈ blanks) (halike : SameUpTo blanks a b → ∀ x, (put a x).Alike (put b x))
    (hblank : Indistinct put a b → a ∈ blanks) : Indistinct put a b ↔ a ∈ blanks :=
  ⟨hblank, fun ha x => (halike (.inr ⟨ha, hb⟩) x).document_eq⟩

/-- a model, and nothing asked of it -/
def bare : JobInputs σ φ := ⟨.empty, .standard, .ofPackage "" ""⟩

/-- a model, a phase, and a type of traffic from the settings -/
def phased (trafficType : String) : JobInputs σ φ :=
  ⟨{ JobRequest.empty with phases := [⟨0, 0, 0⟩] }, { Settings.standard with trafficType },
    .ofPackage "" ""⟩

section
variable {s : Option String} {n : Option UInt32}

theorem explicitFramework_indistinct_iff :
    Indistinct (fun s (x : JobInputs σ φ) => { x with request.framework := s }) s none ↔
      s ∈ [none, some ""] := by
  refine indistinct_iff (by decide)
    (fun hs x => { Alike.refl x with explicitFramework := hs }) fun h => ?_
  have hd : Framework.resolve s none = none :=
    congrArg JobDocument.framework (Except.ok.inj (h bare))
  rw [← nonBlank?_eq_none_iff]
  unfold Framework.resolve at hd
  cases hs : nonBlank? s with
  | none => rfl
  | some given => rw [hs] at hd; cases hd

theorem detectedFramework_indistinct_iff :
    Indistinct (fun s (x : JobInputs σ φ) => { x with model.framework := s }) s none ↔
      s ∈ [none, some ""] := by
  refine indistinct_iff (by decide)
    (fun hs x => { Alike.refl x with detectedFramework := hs }) fun h => ?_
  have hd : (nonBlank? s).map Framework.label = none :=
    congrArg JobDocument.framework (Except.ok.inj (h bare))
  exact nonBlank?_eq_none_iff.mp (Option.map_eq_none_iff.mp hd)

/-- a type that is given hides the one of the settings, so it cannot be the same as all of them -/
theorem trafficType_indistinct_iff :
    Indistinct (fun s (x : JobInputs σ φ) => { x with request.trafficType := s }) s none ↔
      s ∈ [none, some ""] := by
  refine indistinct_iff (by decide)
    (fun hs x => { Alike.refl x with trafficType := fun _ => hs }) fun h => ?_
  rw [← nonBlank?_eq_none_iff]
  cases hs : nonBlank? s with
  | none => rfl
  | some given =>
    have hshown : ∀ t : String, t ≠ "" → given = t := by
      intro t ht
      have hd := congrArg JobDocument.trafficPattern (Except.ok.inj (h (phased t)))
      have htype := congrArg TrafficPattern.trafficType (Option.some.inj hd)
      change (nonBlank? (some (JobRequest.resolvedTrafficType _ _))).getD _ =
        (nonBlank? (some t)).getD _ at htype
      rw [JobRequest.trafficType_resolved] at htype
      change ((nonBlank? s).or _).getD _ = _ at htype
      rwa [hs, nonBlank?_of_ne ht] at htype
    have hsteady := (hshown "STEADY" (by decide)).symm.trans (hshown "STAIRS" (by decide))
    exact absurd hsteady (by decide)

theorem defaultType_indistinct_iff {t : String} :
    Indistinct (fun t (x : JobInputs σ φ) => { x with settings.trafficType := t }) t "PHASES" ↔
      t ∈ ["", "PHASES"] := by
  refine indistinct_iff (by decide)
    (fun ht x => { Alike.refl x with defaultType := fun _ => ht }) fun h => ?_
  have hd := congrArg JobDocument.trafficPattern (Except.ok.inj (h (phased "")))
  have htype : (nonBlank? (some t)).getD TrafficPattern.defaultType = "PHASES" :=
    congrArg TrafficPattern.trafficType (Option.some.inj hd)
  by_cases ht : t = ""
  · simp [ht]
  · rw [nonBlank?_of_ne ht, Option.getD_some] at htype
    simp [htype]

theorem maxInvocations_indistinct_iff :
    Indistinct (fun n (x : JobInputs σ φ) => { x with request.maxInvocations := n }) n none ↔
      n ∈ [none, some 0] := by
  refine indistinct_iff (by decide)
    (fun hn x => { Alike.refl x with maxInvocations := hn }) fun h => ?_
  have hd : StoppingConditions.ofLimits? n [] = none :=
    congrArg JobDocument.stoppingConditions (Except.ok.inj (h bare))
  exact nonZero?_eq_none_iff.mp (StoppingConditions.ofLimits?_eq_none_iff.mp hd).1

theorem maxTests_indistinct_iff :
    Indistinct (fun n (x : JobInputs σ φ) => { x with request.maxTests := n }) n none ↔
      n ∈ [none, some 0] := by
  refine indistinct_iff (by decide)
    (fun hn x => { Alike.refl x with maxTests := hn }) fun h => ?_
  have hd : ResourceLimit.ofLimits? n none = none :=
    congrArg JobDocument.resourceLimit (Except.ok.inj (h bare))
  exact nonZero?_eq_none_iff.mp (ResourceLimit.ofLimits?_eq_none_iff.mp hd).1

theorem maxParallelTests_indistinct_iff :
    Indistinct (fun n (x : JobInputs σ φ) => { x with request.maxParallelTests := n }) n none ↔
      n ∈ [none, some 0] := by
  refine indistinct_iff (by decide)
    (fun hn x => { Alike.refl x with maxParallelTests := hn }) fun h => ?_
  have hd : ResourceLimit.ofLimits? none n = none :=
    congrArg JobDocument.resourceLimit (Except.ok.inj (h bare))
  exact nonZero?_eq_none_iff.mp (ResourceLimit.ofLimits?_eq_none_iff.mp hd).2

end

/-- **Blank means absent, and nothing else does.**  Inputs that differ in blanks make the same
document or fail alike; and a value of a parameter is as good as none, in every document, only when
it is the blank. -/
theorem blank_means_absent :
    (∀ x y : JobInputs σ φ, x.Alike y → x.document = y.document) ∧
      (∀ s, Indistinct (fun s (x : JobInputs σ φ) => { x with request.framework := s }) s none ↔
        s ∈ [none, some ""]) ∧
      (∀ s, Indistinct (fun s (x : JobInputs σ φ) => { x with model.framework := s }) s none ↔
        s ∈ [none, some ""]) ∧
      (∀ s, Indistinct (fun s (x : JobInputs σ φ) => { x with request.trafficType := s }) s none ↔
        s ∈ [none, some ""]) ∧
      (∀ t, Indistinct (fun t (x : JobInputs σ φ) => { x with settings.trafficType := t }) t
        "PHASES" ↔ t ∈ ["", "PHASES"]) ∧
      (∀ n, Indistinct (fun n (x : JobInputs σ φ) => { x with request.maxInvocations := n }) n
        none ↔ n ∈ [none, some 0]) ∧
      (∀ n, Indistinct (fun n (x : JobInputs σ φ) => { x with request.maxTests := n }) n none ↔
        n ∈ [none, some 0]) ∧
      ∀ n, Indistinct (fun n (x : JobInputs σ φ) => { x with request.maxParallelTests := n }) n
        none ↔ n ∈ [none, some 0] :=
  ⟨fun _ _ => Alike.document_eq, fun _ => explicitFramework_indistinct_iff,
    fun _ => detectedFramework_indistinct_iff, fun _ => trafficType_indistinct_iff,
    fun _ => defaultType_indistinct_iff, fun _ => maxInvocations_indistinct_iff,
    fun _ => maxTests_indistinct_iff, fun _ => maxParallelTests_indistinct_iff⟩

/-- every parameter that has a blank is blank -/
def allBlank : JobInputs String Nat :=
  { request := { JobRequest.empty with
      phases := [⟨120, 1, 1⟩], framework := some "", trafficType := some "",
      maxInvocations := some 0, maxTests := some 0, maxParallelTests := some 0,
      logLevel := some .quiet }
    settings := ⟨.quiet, none, ""⟩
    model := (Model.ofPackage "role" "package").withFramework "" }

/-- every such parameter is left out -/
def allAbsent : JobInputs String Nat :=
  { request := { JobRequest.empty with phases := [⟨120, 1, 1⟩] }
    settings := .standard
    model := .ofPackage "role" "package" }

theorem allBlank_document_eq :
    allBlank.Alike allAbsent ∧ allBlank.document = allAbsent.document := by
  have h : allBlank.Alike allAbsent :=
    ⟨rfl, rfl, rfl, rfl, rfl, rfl, rfl, rfl, rfl, rfl, rfl, rfl, .inr (by decide),
      .inr (by decide), fun _ => .inr (by decide), fun _ => .inr (by decide), .inr (by decide),
      .inr (by decide), .inr (by decide)⟩
  exact ⟨h, blank_means_absent.1 allBlank allAbsent h⟩

end JobInputs

end RightSizing
