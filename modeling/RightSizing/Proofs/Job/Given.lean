import RightSizing.Proofs.Job.Validation

/-!
# What counts as given

A parameter of a job may be left out, and for most of them there is a blank that says the same: an
empty text, or a limit of zero.  Each part of a document is described here by what is given, the
blanks left out.

* `Framework.resolve_ne_blank`, `Framework.resolve_of_eq_some`   a label is never blank, and stands
  for itself from then on
* `JobRequest.trafficType_resolved`        where the type of the traffic comes from
* `TrafficPattern.ofPhases?_eq_some_iff`, `StoppingConditions.ofLimits?_eq_some_iff`,
  `ResourceLimit.ofLimits?_eq_some_iff`    when a part of the load test is there, and what it is
-/

namespace RightSizing

section
variable {α : Type} [DecidableEq α] {blank : α} {o : Option α}

theorem filter_ne_eq_none_iff : o.filter (· ≠ blank) = none ↔ o ∈ [none, some blank] := by
  cases o <;> simp [Option.filter]

theorem filter_ne_ne_blank : o.filter (· ≠ blank) ≠ some blank := by
  rw [ne_eq, Option.filter_eq_some_iff]
  simp

theorem filter_ne_filter_ne : (o.filter (· ≠ blank)).filter (· ≠ blank) = o.filter (· ≠ blank) := by
  rw [Option.filter_filter]
  simp only [Bool.and_self]

end

theorem nonBlank?_eq_none_iff {s : Option String} : nonBlank? s = none ↔ s ∈ [none, some ""] :=
  filter_ne_eq_none_iff

theorem nonBlank?_ne_blank (s : Option String) : nonBlank? s ≠ some "" := filter_ne_ne_blank

theorem nonBlank?_of_ne {s : String} (h : s ≠ "") : nonBlank? (some s) = some s := by
  simp [nonBlank?, Option.filter, h]

theorem nonZero?_eq_none_iff {limit : Option UInt32} :
    nonZero? limit = none ↔ limit ∈ [none, some 0] :=
  filter_ne_eq_none_iff

theorem nonZero?_ne_zero (limit : Option UInt32) : nonZero? limit ≠ some 0 := filter_ne_ne_blank

theorem nonZero?_nonZero? (limit : Option UInt32) : nonZero? (nonZero? limit) = nonZero? limit :=
  filter_ne_filter_ne

namespace Framework

theorem label_cases (detected : String) :
    (detected, label detected) ∈ labels ∨ label detected = detected := by
  unfold label
  cases h : labels.lookup detected with
  | none => exact .inr rfl
  | some found =>
    obtain ⟨before, after, hlabels, -⟩ := List.lookup_eq_some_iff.mp h
    refine .inl ?_
    rw [hlabels]
    exact List.mem_append_right before List.mem_cons_self

theorem label_ne_blank {detected : String} (h : detected ≠ "") : label detected ≠ "" := by
  have hlabels : ∀ entry ∈ labels, entry.2 ≠ "" := by decide
  rcases label_cases detected with hmem | hself
  · exact hlabels _ hmem
  · rwa [hself]

/-- no label is the name of another framework -/
theorem label_label (detected : String) : label (label detected) = label detected := by
  have hlabels : ∀ entry ∈ labels, label entry.2 = entry.2 := by decide
  rcases label_cases detected with hmem | hself
  · exact hlabels _ hmem
  · rw [hself, hself]

theorem resolve_ne_blank (explicit detected : Option String) :
    resolve explicit detected ≠ some "" := by
  unfold resolve
  cases he : nonBlank? explicit with
  | some framework =>
    rintro ⟨⟩
    exact nonBlank?_ne_blank explicit he
  | none =>
    intro h
    obtain ⟨name, hname, hlabel⟩ := Option.map_eq_some_iff.mp h
    have hne : name ≠ "" := by
      rintro rfl
      exact nonBlank?_ne_blank detected hname
    exact label_ne_blank hne hlabel

/-- a resolved label wins over whatever is detected -/
theorem resolve_of_eq_some {explicit detected : Option String} {framework : String}
    (h : resolve explicit detected = some framework) (other : Option String) :
    resolve (some framework) other = some framework := by
  refine resolve_explicit ?_ other
  rintro rfl
  exact resolve_ne_blank explicit detected h

theorem resolve_resolve (explicit detected : Option String) :
    resolve (resolve explicit detected) detected = resolve explicit detected := by
  cases h : resolve explicit detected with
  | some framework => exact resolve_of_eq_some h detected
  | none =>
    unfold resolve at h ⊢
    cases he : nonBlank? explicit with
    | some framework => rw [he] at h; cases h
    | none => rw [he] at h; exact h

end Framework

/-- the first that is not blank, of the types of the request, of the settings, and of phases that
are given without one -/
theorem JobRequest.trafficType_resolved (r : JobRequest) (s : Settings) :
    (nonBlank? (some (r.resolvedTrafficType s))).getD TrafficPattern.defaultType =
      ((nonBlank? r.trafficType).or (nonBlank? (some s.trafficType))).getD
        TrafficPattern.defaultType := by
  unfold resolvedTrafficType
  cases h : nonBlank? r.trafficType with
  | none => rfl
  | some t =>
    have hne : t ≠ "" := by
      rintro rfl
      exact nonBlank?_ne_blank _ h
    rw [Option.getD_some, nonBlank?_of_ne hne]
    rfl

theorem TrafficPattern.resolvedType_ne_blank (trafficType : Option String) :
    (nonBlank? trafficType).getD defaultType ≠ "" := by
  cases h : nonBlank? trafficType with
  | none => exact by decide
  | some t =>
    rintro rfl
    exact nonBlank?_ne_blank trafficType h

theorem TrafficPattern.ofPhases?_eq_some_iff {trafficType : Option String} {phases : List Phase}
    {p : TrafficPattern} :
    ofPhases? trafficType phases = some p ↔
      phases ≠ [] ∧ p = ⟨phases, (nonBlank? trafficType).getD defaultType⟩ := by
  cases phases <;> simp [ofPhases?, eq_comm]

theorem StoppingConditions.ofLimits?_eq_some_iff {maxInvocations : Option UInt32}
    {thresholds : List LatencyThreshold} {c : StoppingConditions} :
    ofLimits? maxInvocations thresholds = some c ↔
      (nonZero? maxInvocations ≠ none ∨ thresholds ≠ []) ∧
        c = ⟨nonZero? maxInvocations, thresholds⟩ := by
  unfold ofLimits?
  cases nonZero? maxInvocations <;> cases thresholds <;> simp [eq_comm]

theorem StoppingConditions.ofLimits?_eq_none_iff {maxInvocations : Option UInt32}
    {thresholds : List LatencyThreshold} :
    ofLimits? maxInvocations thresholds = none ↔
      nonZero? maxInvocations = none ∧ thresholds = [] := by
  unfold ofLimits?
  cases nonZero? maxInvocations <;> cases thresholds <;> simp

theorem ResourceLimit.ofLimits?_eq_some_iff {maxTests maxParallelTests : Option UInt32}
    {l : ResourceLimit} :
    ofLimits? maxTests maxParallelTests = some l ↔
      (nonZero? maxTests ≠ none ∨ nonZero? maxParallelTests ≠ none) ∧
        l = ⟨nonZero? maxTests, nonZero? maxParallelTests⟩ := by
  unfold ofLimits?
  cases nonZero? maxTests <;> cases nonZero? maxParallelTests <;> simp [eq_comm]

theorem ResourceLimit.ofLimits?_eq_none_iff {maxTests maxParallelTests : Option UInt32} :
    ofLimits? maxTests maxParallelTests = none ↔
      nonZero? maxTests = none ∧ nonZero? maxParallelTests = none := by
  unfold ofLimits?
  cases nonZero? maxTests <;> cases nonZero? maxParallelTests <;> simp

end RightSizing
