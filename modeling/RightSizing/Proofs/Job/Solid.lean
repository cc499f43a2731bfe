import RightSizing.Proofs.Job.Given
import RightSizing.Proofs.Job.Wire
import RightSizing.Proofs.Json.Values

/-!
# No part of a document is hollow

A part of the load test is in a document because something was asked for, and then it says what: a
list of configurations has one at least, a traffic pattern has phases and a type, conditions and
limits have a member, and no limit is zero.  So on the wire no part is an empty object or an empty
list (`Value.IsHollow`), and no object at all is empty (`Value.Solid`); the only empty lists inside
a part are those of a configuration without parameters, or of a parameter without values.

* `EndpointConfiguration.mem_ofAll`   a configuration is for an instance type of one of the sweeps
* `Value.Solid.ofMembers`             an object of solid members
* `JobRequest.document_nothingHollow`  every document, part by part and on the wire
-/

namespace RightSizing

/-! ## Configurations -/

theorem Sweep.instanceTypes?_eq_some_iff {s : Sweep} {types : Candidates} :
    s.instanceTypes? = some types ↔ s.find? instanceTypesName = some types ∧ types.values ≠ [] := by
  unfold instanceTypes?
  rw [Option.filter_eq_some_iff]
  simp [Candidates.isEmpty]

namespace EndpointConfiguration

variable {sweeps : List Sweep} {all : List EndpointConfiguration}

theorem ofAll_cons_eq_ok_iff {s : Sweep} :
    ofAll (s :: sweeps) = .ok all ↔ ∃ types rest, s.instanceTypes? = some types ∧
      ofAll sweeps = .ok rest ∧ s.configurations types ++ rest = all := by
  rw [ofAll]
  cases s.instanceTypes? with
  | none => simp
  | some types => simp [map_eq_ok_iff]

theorem mem_ofAll (h : ofAll sweeps = .ok all) {c : EndpointConfiguration} (hc : c ∈ all) :
    ∃ s ∈ sweeps, ∃ types, s.find? Sweep.instanceTypesName = some types ∧
      c.instanceType ∈ types.values := by
  induction sweeps generalizing all with
  | nil =>
    cases h
    cases hc
  | cons s sweeps ih =>
    obtain ⟨types, rest, htypes, hrest, rfl⟩ := ofAll_cons_eq_ok_iff.mp h
    rcases List.mem_append.mp hc with hc | hc
    · obtain ⟨instanceType, hmem, rfl⟩ := List.mem_map.mp hc
      exact ⟨s, List.mem_cons_self, types, (Sweep.instanceTypes?_eq_some_iff.mp htypes).1, hmem⟩
    · obtain ⟨s', hs', hfound⟩ := ih hrest hc
      exact ⟨s', List.mem_cons_of_mem s hs', hfound⟩

theorem ofAll_ne_nil (h : ofAll sweeps = .ok all) (hne : sweeps ≠ []) : all ≠ [] := by
  cases sweeps with
  | nil => exact absurd rfl hne
  | cons s sweeps =>
    obtain ⟨types, rest, htypes, -, rfl⟩ := ofAll_cons_eq_ok_iff.mp h
    have hvalues := (Sweep.instanceTypes?_eq_some_iff.mp htypes).2
    simp [Sweep.configurations, hvalues]

theorem ofSweeps_eq_some_iff :
    ofSweeps sweeps = .ok (some all) ↔ sweeps ≠ [] ∧ ofAll sweeps = .ok all := by
  cases sweeps with
  | nil => simp [ofSweeps]
  | cons s sweeps => simp [ofSweeps, map_eq_ok_iff]

end EndpointConfiguration

/-! ## Solid values -/

namespace Value

/-- an object without members or a list without items -/
def IsHollow (v : Value) : Prop := v = .object [] ∨ v = .array []

/-- neither the value nor any inside is an empty object, or, without `emptyLists`, an empty list -/
inductive Solid (emptyLists : Prop) : Value → Prop where
  | null : Solid emptyLists .null
  | bool (b : Bool) : Solid emptyLists (.bool b)
  | number (n : Number) : Solid emptyLists (.number n)
  | string (s : String) : Solid emptyLists (.string s)
  | array {items : List Value} (hempty : items = [] → emptyLists)
      (h : ∀ x ∈ items, Solid emptyLists x) : Solid emptyLists (.array items)
  | object {members : Members} (hne : members ≠ []) (h : ∀ m ∈ members, Solid emptyLists m.2) :
      Solid emptyLists (.object members)

theorem Solid.not_isHollow {v : Value} (h : v.Solid False) : ¬ v.IsHollow := by
  cases h with
  | array hempty h => simpa [IsHollow] using hempty
  | object hne h => simpa [IsHollow] using hne
  | _ => simp [IsHollow]

theorem insert_ne_nil (name : String) (value : Value) (members : Members) :
    insert name value members ≠ [] := by
  fun_cases insert name value members <;> exact List.cons_ne_nil _ _

theorem foldl_insert_ne_nil (members : Members) {done : Members} (h : done ≠ []) :
    members.foldl (fun done (name, value) => insert name value done) done ≠ [] := by
  induction members generalizing done with
  | nil => exact h
  | cons member members ih => exact ih (insert_ne_nil _ _ _)

theorem sorted_ne_nil {members : Members} (h : members ≠ []) : sorted members ≠ [] := by
  cases members with
  | nil => exact absurd rfl h
  | cons member members => exact foldl_insert_ne_nil members (insert_ne_nil _ _ _)

theorem Solid.ofMembers {emptyLists : Prop} {members : Members} (hne : members ≠ [])
    (h : ∀ m ∈ members, m.2.Solid emptyLists) : (ofMembers members).Solid emptyLists :=
  .object (sorted_ne_nil hne) fun m hm =>
    h m ((mem_foldl_insert hm).resolve_right List.not_mem_nil)

end Value

section
variable {emptyLists : Prop}

theorem Codec.list_write_solid {c : Codec α} {as : List α} (hempty : as = [] → emptyLists)
    (h : ∀ a ∈ as, (c.write a).Solid emptyLists) : ((Codec.list c).write as).Solid emptyLists := by
  refine .array (fun hnil => hempty (List.map_eq_nil_iff.mp hnil)) fun x hx => ?_
  obtain ⟨a, ha, rfl⟩ := List.mem_map.mp hx
  exact h a ha

theorem Codec.optional_write_solid {c : Codec α} {o : Option α}
    (h : ∀ a ∈ o, (c.write a).Solid emptyLists) : (c.optional.write o).Solid emptyLists := by
  cases o with
  | none => exact .null
  | some a => exact h a rfl

theorem Codec.text_write_solid (t : String) : (Codec.text.write t).Solid emptyLists := .string t

theorem Codec.count32_write_solid (n : UInt32) : (Codec.count32.write n).Solid emptyLists :=
  .number _

namespace Layout

/-- each member that is written is written solidly -/
def WritesSolid (emptyLists : Prop) (r : ρ) : Layout ρ α → Prop
  | start _ => True
  | member before m => before.WritesSolid emptyLists r ∧
      (m.omitted (m.get r) = false → (m.content.write (m.get r)).Solid emptyLists)

theorem WritesSolid.toMembers {layout : Layout ρ α} {r : ρ} (h : layout.WritesSolid emptyLists r) :
    ∀ member ∈ layout.toMembers r, member.2.Solid emptyLists := by
  induction layout with
  | start make => simp [Layout.toMembers]
  | member before m ih =>
    rw [Layout.toMembers, List.forall_mem_append]
    refine ⟨ih h.1, fun member hmem => ?_⟩
    rw [Member.toMembers] at hmem
    split at hmem
    · cases hmem
    · next homitted =>
      rw [List.mem_singleton.mp hmem]
      exact h.2 (Bool.eq_false_iff.mpr homitted)

theorem codec_write_solid (layout : Layout ρ ρ) (title : String) {r : ρ}
    (hne : layout.toMembers r ≠ []) (h : layout.WritesSolid emptyLists r) :
    ((layout.codec title).write r).Solid emptyLists :=
  .ofMembers hne h.toMembers

end Layout

/-! ## The parts on the wire -/

theorem Phase.codec_write_solid (p : Phase) : (codec.write p).Solid emptyLists :=
  layout.codec_write_solid _ (by simp [layout, Layout.toMembers, Member.required_toMembers])
    ⟨⟨⟨trivial, fun _ => .number _⟩, fun _ => .number _⟩, fun _ => .number _⟩

theorem TrafficPattern.codec_write_solid {p : TrafficPattern} (h : p.phases ≠ []) :
    (codec.write p).Solid emptyLists :=
  layout.codec_write_solid _ (by simp [layout, Layout.toMembers, Member.required_toMembers])
    ⟨⟨trivial, fun _ => Codec.list_write_solid (absurd · h) fun p _ => p.codec_write_solid⟩,
      fun _ => .string _⟩

theorem LatencyThreshold.codec_write_solid (t : LatencyThreshold) :
    (codec.write t).Solid emptyLists :=
  layout.codec_write_solid _ (by simp [layout, Layout.toMembers, Member.required_toMembers])
    ⟨⟨trivial, fun _ => .string _⟩, fun _ => .number _⟩

theorem StoppingConditions.codec_write_solid {c : StoppingConditions}
    (h : c.maxInvocations ≠ none ∨ c.latencyThresholds ≠ []) :
    (codec.write c).Solid emptyLists := by
  refine layout.codec_write_solid _ ?_ ⟨⟨trivial, fun _ =>
    Codec.optional_write_solid fun n _ => Codec.count32_write_solid n⟩, fun hwritten => ?_⟩
  · rcases h with h | h <;>
      simp [layout, Layout.toMembers, Member.toMembers, Member.skipping, Member.optional,
        Member.defaulted, h]
  · -- an empty list of thresholds would not have been written
    refine Codec.list_write_solid (fun hnil => ?_) fun t _ => t.codec_write_solid
    rw [hnil] at hwritten
    cases hwritten

theorem ResourceLimit.codec_write_solid {l : ResourceLimit}
    (h : l.maxNumberOfTests ≠ none ∨ l.maxParallelOfTests ≠ none) :
    (codec.write l).Solid emptyLists := by
  have hlimit : ∀ n, (Codec.count32.optional.write n).Solid emptyLists := fun n =>
    Codec.optional_write_solid fun n _ => Codec.count32_write_solid n
  refine layout.codec_write_solid _ ?_ ⟨⟨trivial, fun _ => hlimit _⟩, fun _ => hlimit _⟩
  rcases h with h | h <;>
    simp [layout, Layout.toMembers, Member.toMembers, Member.skipping, Member.optional, h]

end

/-! Lists that the request gives as it likes may be empty: the values of a parameter, and the
parameters of an environment. -/

theorem texts_write_solid (texts : List String) : ((Codec.list .text).write texts).Solid True :=
  Codec.list_write_solid (fun _ => trivial) fun t _ => Codec.text_write_solid t

theorem ParameterRange.codec_write_solid (r : ParameterRange) : (codec.write r).Solid True :=
  layout.codec_write_solid _ (by simp [layout, Layout.toMembers, Member.required_toMembers])
    ⟨⟨trivial, fun _ => .string _⟩, fun _ => texts_write_solid _⟩

theorem EnvironmentRanges.codec_write_solid (r : EnvironmentRanges) : (codec.write r).Solid True :=
  layout.codec_write_solid _ (by simp [layout, Layout.toMembers, Member.required_toMembers])
    ⟨trivial, fun _ => Codec.list_write_solid (fun _ => trivial) fun r _ => r.codec_write_solid⟩

theorem EndpointConfiguration.codec_write_solid (c : EndpointConfiguration) :
    (codec.write c).Solid True :=
  layout.codec_write_solid _ (by simp [layout, Layout.toMembers, Member.required_toMembers])
    ⟨⟨trivial, fun _ => EnvironmentRanges.codec_write_solid _⟩, fun _ => .string _⟩

/-! ## Documents -/

namespace JobDocument

/-- the parts of a load test of which nothing inside is ever empty -/
def solidNames : List String := ["traffic_pattern", "stopping_conditions", "resource_limit"]

/-- all parts; a configuration may have no parameters, or a parameter no values -/
def partNames : List String := "endpoint_configurations" :: solidNames

/-- every part that is there says something, and what it says was asked for -/
structure NothingHollow (request : JobRequest) (settings : Settings) (d : JobDocument) : Prop where
  configurations : ∀ all ∈ d.endpointConfigurations, all ≠ []
  instanceType : ∀ all ∈ d.endpointConfigurations, ∀ c ∈ all, ∃ s ∈ request.sweeps, ∃ types,
    s.find? Sweep.instanceTypesName = some types ∧ c.instanceType ∈ types.values
  phases : ∀ p ∈ d.trafficPattern, p.phases = request.phases ∧ p.phases ≠ []
  /-- the first type that is not blank, of the request and of the settings -/
  trafficType : ∀ p ∈ d.trafficPattern, p.trafficType ≠ "" ∧
    [request.trafficType.getD "", settings.trafficType, "PHASES"].find? (· ≠ "") =
      some p.trafficType
  stoppingConditions : ∀ c ∈ d.stoppingConditions,
    (c.maxInvocations ≠ none ∨ c.latencyThresholds ≠ []) ∧ c.maxInvocations ≠ some 0
  resourceLimit : ∀ l ∈ d.resourceLimit,
    (l.maxNumberOfTests ≠ none ∨ l.maxParallelOfTests ≠ none) ∧
      l.maxNumberOfTests ≠ some 0 ∧ l.maxParallelOfTests ≠ some 0
  framework : d.framework ≠ some ""
  /-- no object at all is empty -/
  wire : (codec.write d).Solid True
  parts : ∃ members, codec.write d = .object members ∧
    (∀ name ∈ partNames, ∀ part, Value.find? members name = some part → ¬ part.IsHollow) ∧
      ∀ name ∈ solidNames, ∀ part, Value.find? members name = some part → part.Solid False

/-- a member of the wire object is what was written for it -/
theorem eq_of_find?_sorted {d : JobDocument} {name : String} {part : Value} (x : Value)
    (hx : (name, x) ∈ layout.toMembers d)
    (hpart : Value.find? (Value.sorted (layout.toMembers d)) name = some part) : part = x := by
  have hfound := (Layout.find?_sorted_eq_some_iff layout_faithful.nodup).mpr hx
  exact Option.some.inj (hpart.symm.trans hfound)

theorem parts_mem_toMembers (d : JobDocument) :
    ("endpoint_configurations",
        (Codec.list EndpointConfiguration.codec).optional.write d.endpointConfigurations) ∈
        layout.toMembers d ∧
      ("traffic_pattern", TrafficPattern.codec.optional.write d.trafficPattern) ∈
        layout.toMembers d ∧
      ("stopping_conditions", StoppingConditions.codec.optional.write d.stoppingConditions) ∈
        layout.toMembers d ∧
      ("resource_limit", ResourceLimit.codec.optional.write d.resourceLimit) ∈
        layout.toMembers d := by
  simp only [toMembers_eq, List.mem_cons, true_or, or_true, and_self]

theorem endpointConfigurations_not_isHollow {d : JobDocument} {part : Value}
    (h : ∀ all ∈ d.endpointConfigurations, all ≠ [])
    (hpart : Value.find? (Value.sorted (layout.toMembers d)) "endpoint_configurations" =
      some part) : ¬ part.IsHollow := by
  rw [eq_of_find?_sorted _ d.parts_mem_toMembers.1 hpart]
  cases hd : d.endpointConfigurations with
  | none => exact Value.Solid.not_isHollow .null
  | some all =>
    have hne := h all hd
    simpa [Value.IsHollow, Codec.optional, Codec.list] using hne

section
variable {d : JobDocument} (htraffic : ∀ p ∈ d.trafficPattern, p.phases ≠ [])
  (hstopping : ∀ c ∈ d.stoppingConditions, c.maxInvocations ≠ none ∨ c.latencyThresholds ≠ [])
  (hlimit : ∀ l ∈ d.resourceLimit, l.maxNumberOfTests ≠ none ∨ l.maxParallelOfTests ≠ none)
include htraffic hstopping hlimit

theorem codec_write_solid : (codec.write d).Solid True := by
  have htext : ∀ o : Option String, (Codec.text.optional.write o).Solid True := fun o =>
    Codec.optional_write_solid fun t _ => Codec.text_write_solid t
  refine .ofMembers ?_ ?_
  · rw [toMembers_eq]
    exact List.cons_ne_nil _ _
  · simp only [toMembers_eq, List.forall_mem_cons]
    exact ⟨.string _, htext _, .string _,
      Codec.optional_write_solid fun n _ => Codec.count32_write_solid n, .string _, htext _,
      htext _, htext _, texts_write_solid _, texts_write_solid _,
      Codec.optional_write_solid fun all _ =>
        Codec.list_write_solid (fun _ => trivial) fun c _ => c.codec_write_solid,
      Codec.optional_write_solid fun p hp => TrafficPattern.codec_write_solid (htraffic p hp),
      Codec.optional_write_solid fun c hc => StoppingConditions.codec_write_solid (hstopping c hc),
      Codec.optional_write_solid fun l hl => ResourceLimit.codec_write_solid (hlimit l hl),
      by simp⟩

theorem solid_of_mem_solidNames {name : String} {part : Value} (hname : name ∈ solidNames)
    (hpart : Value.find? (Value.sorted (layout.toMembers d)) name = some part) :
    part.Solid False := by
  obtain ⟨-, hmtraffic, hmstopping, hmlimit⟩ := d.parts_mem_toMembers
  simp only [solidNames, List.mem_cons, List.not_mem_nil, or_false] at hname
  rcases hname with rfl | rfl | rfl
  · rw [eq_of_find?_sorted _ hmtraffic hpart]
    exact Codec.optional_write_solid fun p hp => TrafficPattern.codec_write_solid (htraffic p hp)
  · rw [eq_of_find?_sorted _ hmstopping hpart]
    exact Codec.optional_write_solid fun c hc =>
      StoppingConditions.codec_write_solid (hstopping c hc)
  · rw [eq_of_find?_sorted _ hmlimit hpart]
    exact Codec.optional_write_solid fun l hl => ResourceLimit.codec_write_solid (hlimit l hl)

end

end JobDocument

namespace JobRequest

theorem find?_trafficType (r : JobRequest) (s : Settings) :
    [r.trafficType.getD "", s.trafficType, "PHASES"].find? (· ≠ "") =
      some ((nonBlank? (some (r.resolvedTrafficType s))).getD TrafficPattern.defaultType) := by
  rw [trafficType_resolved]
  have hsettings : [s.trafficType, "PHASES"].find? (· ≠ "") =
      some ((nonBlank? (some s.trafficType)).getD TrafficPattern.defaultType) := by
    by_cases hs : s.trafficType = ""
    · rw [hs]
      rfl
    · rw [nonBlank?_of_ne hs, List.find?_cons_of_pos (by simpa using hs)]
      rfl
  cases ht : r.trafficType with
  | none => exact hsettings
  | some t =>
    by_cases hne : t = ""
    · rw [hne]
      exact hsettings
    · rw [nonBlank?_of_ne hne, Option.getD_some, List.find?_cons_of_pos (by simpa using hne)]
      rfl

section
variable {σ φ : Type} {m : Model σ φ} {request : JobRequest} {settings : Settings} {arn : String}
  {configurations : Option (List EndpointConfiguration)} {d : JobDocument}

theorem mem_trafficPattern_assemble {p : TrafficPattern}
    (hp : p ∈ (request.assemble settings m arn configurations).trafficPattern) :
    (p.phases = request.phases ∧ p.phases ≠ []) ∧ p.trafficType ≠ "" ∧
      [request.trafficType.getD "", settings.trafficType, "PHASES"].find? (· ≠ "") =
        some p.trafficType := by
  obtain ⟨hne, rfl⟩ := TrafficPattern.ofPhases?_eq_some_iff.mp hp
  have hfirst := request.find?_trafficType settings
  exact ⟨⟨rfl, hne⟩, by simpa using List.find?_some hfirst, hfirst⟩

theorem mem_stoppingConditions_assemble {c : StoppingConditions}
    (hc : c ∈ (request.assemble settings m arn configurations).stoppingConditions) :
    (c.maxInvocations ≠ none ∨ c.latencyThresholds ≠ []) ∧ c.maxInvocations ≠ some 0 := by
  obtain ⟨hgiven, rfl⟩ := StoppingConditions.ofLimits?_eq_some_iff.mp hc
  exact ⟨hgiven, nonZero?_ne_zero _⟩

theorem mem_resourceLimit_assemble {l : ResourceLimit}
    (hl : l ∈ (request.assemble settings m arn configurations).resourceLimit) :
    (l.maxNumberOfTests ≠ none ∨ l.maxParallelOfTests ≠ none) ∧
      l.maxNumberOfTests ≠ some 0 ∧ l.maxParallelOfTests ≠ some 0 := by
  obtain ⟨hgiven, rfl⟩ := ResourceLimit.ofLimits?_eq_some_iff.mp hl
  exact ⟨hgiven, nonZero?_ne_zero _, nonZero?_ne_zero _⟩

/-- **No document has a hollow part.**  Each part that is there holds what the request asks for; on
the wire neither the part nor any object is empty, and no list inside the part is but for those that
a configuration takes from the request. -/
theorem document_nothingHollow (hd : request.document settings m = .ok d) :
    d.NothingHollow request settings := by
  obtain ⟨arn, configurations, -, hc, rfl⟩ := document_eq_ok_iff.mp hd
  have hall : ∀ all ∈ configurations,
      request.sweeps ≠ [] ∧ EndpointConfiguration.ofAll request.sweeps = .ok all := by
    rintro all ⟨⟩
    exact EndpointConfiguration.ofSweeps_eq_some_iff.mp hc
  have hne : ∀ all ∈ configurations, all ≠ [] := fun all h =>
    EndpointConfiguration.ofAll_ne_nil (hall all h).2 (hall all h).1
  have htraffic : ∀ p ∈ (request.assemble settings m arn configurations).trafficPattern,
      p.phases ≠ [] := fun p hp => (mem_trafficPattern_assemble hp).1.2
  have hstopping : ∀ c ∈ (request.assemble settings m arn configurations).stoppingConditions,
      c.maxInvocations ≠ none ∨ c.latencyThresholds ≠ [] :=
    fun c hc => (mem_stoppingConditions_assemble hc).1
  have hlimit : ∀ l ∈ (request.assemble settings m arn configurations).resourceLimit,
      l.maxNumberOfTests ≠ none ∨ l.maxParallelOfTests ≠ none :=
    fun l hl => (mem_resourceLimit_assemble hl).1
  exact {
    configurations := hne
    instanceType := fun all h c hmem => EndpointConfiguration.mem_ofAll (hall all h).2 hmem
    phases := fun p hp => (mem_trafficPattern_assemble hp).1
    trafficType := fun p hp => (mem_trafficPattern_assemble hp).2
    stoppingConditions := fun c hc => mem_stoppingConditions_assemble hc
    resourceLimit := fun l hl => mem_resourceLimit_assemble hl
    framework := Framework.resolve_ne_blank _ _
    wire := JobDocument.codec_write_solid htraffic hstopping hlimit
    parts := by
      refine ⟨_, rfl, fun name hname part hpart => ?_, fun name hname part hpart => ?_⟩
      · rcases List.mem_cons.mp hname with rfl | hname
        · exact JobDocument.endpointConfigurations_not_isHollow hne hpart
        · exact (JobDocument.solid_of_mem_solidNames htraffic hstopping hlimit hname
            hpart).not_isHollow
      · exact JobDocument.solid_of_mem_solidNames htraffic hstopping hlimit hname hpart }

end

end JobRequest

/-- a sweep with nothing but instance types, and blanks beside what is asked for -/
def sparseRequest : JobRequest :=
  { JobRequest.empty with
    sweeps := [.ofList [("instance_types", ⟨["ml.c5.large"]⟩)]], phases := [⟨120, 1, 1⟩],
    trafficType := some "", maxInvocations := some 0, latencyThresholds := [⟨"P95", 100⟩],
    maxTests := some 0, maxParallelTests := some 2, framework := some "" }

theorem document_nothingHollow_of_sparse :
    let m : Model Unit Unit := .ofPackage "role" "package"
    ∃ d, sparseRequest.document ⟨.verbose, none, ""⟩ m = .ok d ∧
      d.NothingHollow sparseRequest ⟨.verbose, none, ""⟩ ∧
      d.trafficPattern = some ⟨[⟨120, 1, 1⟩], "PHASES"⟩ ∧
      d.stoppingConditions = some ⟨none, [⟨"P95", 100⟩]⟩ ∧
      d.resourceLimit = some ⟨none, some 2⟩ := by
  intro m
  have hd : sparseRequest.document ⟨.verbose, none, ""⟩ m = .ok _ := rfl
  exact ⟨_, hd, JobRequest.document_nothingHollow hd, rfl, rfl, rfl⟩

end RightSizing
