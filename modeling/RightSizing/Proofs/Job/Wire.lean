import RightSizing.Job.Document
import RightSizing.Proofs.LoadTest.RoundTrip

/-!
# Job documents on the wire

The object that is written for a job document has all fourteen members, whatever the document holds,
with null for each option that is absent.  Inside a part of the load test it is the other way round:
what is absent there is left out.  The two ways never meet, so the object determines the document.

* `JobType.codec_lawful`, `JobDocument.codec_lawful`  reading gives back what was written
* `JobDocument.toMembers_eq`            the fourteen members
* `JobDocument.mem_toMembers_null_iff`  which of them are null
* `JobDocument.wire_determines`         what the object tells of the document
-/

namespace RightSizing

open Codec Member

theorem JobType.codec_lawful : JobType.codec.Lawful := by
  intro t
  cases t <;> rfl

theorem JobType.codec_neverNull : JobType.codec.NeverNull := fun _ => nofun

theorem Codec.optional_write_eq_null_iff {c : Codec α} (h : c.NeverNull) {o : Option α} :
    c.optional.write o = .null ↔ o = none := by
  cases o with
  | none => exact iff_of_true rfl rfl
  | some a => exact iff_of_false (h a) nofun

namespace JobDocument

/-- the members of the object, in declared order -/
def wireNames : List String :=
  ["role", "job_name", "job_type", "job_duration_in_seconds", "model_package_version_arn",
    "framework", "framework_version", "sample_payload_url", "supported_content_types",
    "supported_instance_types", "endpoint_configurations", "traffic_pattern",
    "stopping_conditions", "resource_limit"]

/-- the names of the options that are absent -/
def absentNames (d : JobDocument) : List String :=
  [("job_name", d.jobName.isNone), ("job_duration_in_seconds", d.jobDuration.isNone),
    ("framework", d.framework.isNone), ("framework_version", d.frameworkVersion.isNone),
    ("sample_payload_url", d.samplePayloadUrl.isNone),
    ("endpoint_configurations", d.endpointConfigurations.isNone),
    ("traffic_pattern", d.trafficPattern.isNone),
    ("stopping_conditions", d.stoppingConditions.isNone),
    ("resource_limit", d.resourceLimit.isNone)].filterMap fun (name, absent) =>
      if absent then some name else none

theorem layout_faithful : layout.Faithful where
  nodup := by decide
  recovers := ⟨⟨⟨⟨⟨⟨⟨⟨⟨⟨⟨⟨⟨⟨trivial, defaulted_recovers _ _ _ _⟩, optional_recovers _ _ _⟩,
    required_recovers _ _ _⟩, optional_recovers _ _ _⟩, defaulted_recovers _ _ _ _⟩,
    optional_recovers _ _ _⟩, optional_recovers _ _ _⟩, optional_recovers _ _ _⟩,
    defaulted_recovers _ _ _ _⟩, defaulted_recovers _ _ _ _⟩, optional_recovers _ _ _⟩,
    optional_recovers _ _ _⟩, optional_recovers _ _ _⟩, optional_recovers _ _ _⟩
  build _ := rfl

theorem configurations_lawful : (Codec.list EndpointConfiguration.codec).optional.Lawful :=
  EndpointConfiguration.codec_lawful.list.optional (list_neverNull _)

theorem stopping_lawful : StoppingConditions.codec.optional.Lawful :=
  StoppingConditions.codec_lawful.optional (Layout.codec_neverNull _ _)

theorem limit_lawful : ResourceLimit.codec.optional.Lawful :=
  ResourceLimit.codec_lawful.optional (Layout.codec_neverNull _ _)

theorem codec_lawful : codec.Lawful :=
  layout_faithful.codec_lawful _ fun _ =>
    ⟨⟨⟨⟨⟨⟨⟨⟨⟨⟨⟨⟨⟨⟨trivial, text_lawful _⟩, text_lawful.optional text_neverNull _⟩,
      JobType.codec_lawful _⟩, count32_lawful.optional count32_neverNull _⟩, text_lawful _⟩,
      text_lawful.optional text_neverNull _⟩, text_lawful.optional text_neverNull _⟩,
      text_lawful.optional text_neverNull _⟩, text_lawful.list _⟩, text_lawful.list _⟩,
      configurations_lawful _⟩,
      TrafficPattern.codec_lawful.optional (Layout.codec_neverNull _ _) _⟩,
      stopping_lawful _⟩, limit_lawful _⟩

/-- no member of a job document is ever left out -/
theorem toMembers_eq (d : JobDocument) :
    layout.toMembers d =
      [("role", text.write d.role), ("job_name", text.optional.write d.jobName),
        ("job_type", JobType.codec.write d.jobType),
        ("job_duration_in_seconds", count32.optional.write d.jobDuration),
        ("model_package_version_arn", text.write d.packageArn),
        ("framework", text.optional.write d.framework),
        ("framework_version", text.optional.write d.frameworkVersion),
        ("sample_payload_url", text.optional.write d.samplePayloadUrl),
        ("supported_content_types", (Codec.list text).write d.contentTypes),
        ("supported_instance_types", (Codec.list text).write d.instanceTypes),
        ("endpoint_configurations",
          (Codec.list EndpointConfiguration.codec).optional.write d.endpointConfigurations),
        ("traffic_pattern", TrafficPattern.codec.optional.write d.trafficPattern),
        ("stopping_conditions", StoppingConditions.codec.optional.write d.stoppingConditions),
        ("resource_limit", ResourceLimit.codec.optional.write d.resourceLimit)] := by
  simp only [layout, Layout.toMembers, required_toMembers, defaulted_toMembers, optional_toMembers,
    List.nil_append, List.cons_append]

theorem names_toMembers (d : JobDocument) : (layout.toMembers d).map Prod.fst = wireNames := by
  rw [toMembers_eq]
  rfl

theorem mem_absentNames_iff {d : JobDocument} {name : String} :
    name ∈ d.absentNames ↔
      name = "job_name" ∧ d.jobName = none ∨
      name = "job_duration_in_seconds" ∧ d.jobDuration = none ∨
      name = "framework" ∧ d.framework = none ∨
      name = "framework_version" ∧ d.frameworkVersion = none ∨
      name = "sample_payload_url" ∧ d.samplePayloadUrl = none ∨
      name = "endpoint_configurations" ∧ d.endpointConfigurations = none ∨
      name = "traffic_pattern" ∧ d.trafficPattern = none ∨
      name = "stopping_conditions" ∧ d.stoppingConditions = none ∨
      name = "resource_limit" ∧ d.resourceLimit = none := by
  simp only [absentNames, List.mem_filterMap, List.mem_cons, List.not_mem_nil, or_false,
    Option.ite_none_right_eq_some, Option.some.injEq, or_and_right, exists_or, exists_eq_left,
    Option.isNone_iff_eq_none, eq_comm (a := name)]
  simp only [and_comm]

theorem mem_toMembers_null_iff {d : JobDocument} {name : String} :
    (name, Value.null) ∈ layout.toMembers d ↔ name ∈ d.absentNames := by
  have htext : ∀ s, text.write s ≠ .null := text_neverNull
  have htype : ∀ t, JobType.codec.write t ≠ .null := JobType.codec_neverNull
  have hlist : ∀ as, (Codec.list text).write as ≠ .null := list_neverNull text
  have htraffic : TrafficPattern.codec.NeverNull := Layout.codec_neverNull _ _
  have hstopping : StoppingConditions.codec.NeverNull := Layout.codec_neverNull _ _
  have hlimit : ResourceLimit.codec.NeverNull := Layout.codec_neverNull _ _
  simp only [toMembers_eq, mem_absentNames_iff, List.mem_cons, Prod.mk.injEq, List.not_mem_nil,
    or_false, eq_comm (a := Value.null), htext, htype, hlist,
    optional_write_eq_null_iff text_neverNull, optional_write_eq_null_iff count32_neverNull,
    optional_write_eq_null_iff (list_neverNull EndpointConfiguration.codec),
    optional_write_eq_null_iff htraffic, optional_write_eq_null_iff hstopping,
    optional_write_eq_null_iff hlimit, and_false, false_or]

/-- **The object has all fourteen members and determines the document.**  Null stands for the absent
options, the empty list for no configurations, and the empty object for a part of the load test that
is there but holds nothing. -/
theorem wire_determines :
    Function.Injective codec.write ∧ ∀ d, ∃ members, codec.write d = .object members ∧
      (members.map Prod.fst).Perm wireNames ∧
      (∀ name, Value.find? members name = some .null ↔ name ∈ d.absentNames) ∧
      (Value.find? members "endpoint_configurations" = some (.array []) ↔
        d.endpointConfigurations = some []) ∧
      (Value.find? members "stopping_conditions" = some (.object []) ↔
        d.stoppingConditions = some ⟨none, []⟩) ∧
      (Value.find? members "resource_limit" = some (.object []) ↔
        d.resourceLimit = some ⟨none, none⟩) := by
  refine ⟨codec_lawful.injective, fun d => ?_⟩
  have hnodup : layout.names.Nodup := layout_faithful.nodup
  refine ⟨Value.sorted (layout.toMembers d), rfl, ?_, fun name => ?_, ?_, ?_, ?_⟩
  · rw [← names_toMembers d]
    exact Value.names_sorted_perm ((layout.names_toMembers d).nodup hnodup)
  · rw [Layout.find?_sorted_eq_some_iff hnodup, mem_toMembers_null_iff]
  · exact Layout.find?_sorted_eq_write_iff hnodup configurations_lawful (b := some [])
      (by simp only [toMembers_eq, List.mem_cons, true_or, or_true])
  · exact Layout.find?_sorted_eq_write_iff hnodup stopping_lawful (b := some ⟨none, []⟩)
      (by simp only [toMembers_eq, List.mem_cons, true_or, or_true])
  · exact Layout.find?_sorted_eq_write_iff hnodup limit_lawful (b := some ⟨none, none⟩)
      (by simp only [toMembers_eq, List.mem_cons, true_or, or_true])

end JobDocument

end RightSizing
