import RightSizing.Deploy.Target
import RightSizing.LoadTest.Documents
import RightSizing.Proofs.Record.RoundTrip

/-!
# Documents that are sent

Every load-test document, and every configuration of a deploy, can be read back from what is written
for it, whatever texts, lists and counts it holds and whichever of its members are absent.  Each
layout sees to its names and to what it leaves out; the rest follows member by member.
-/

namespace RightSizing

open Codec Member

theorem Phase.layout_faithful : Phase.layout.Faithful where
  nodup := by decide
  recovers := ⟨⟨⟨trivial, required_recovers _ _ _⟩, required_recovers _ _ _⟩,
    required_recovers _ _ _⟩
  build _ := rfl

theorem Phase.codec_lawful : Phase.codec.Lawful :=
  Phase.layout_faithful.codec_lawful _ fun _ =>
    ⟨⟨⟨trivial, count32_lawful _⟩, count32_lawful _⟩, count32_lawful _⟩

theorem TrafficPattern.layout_faithful : TrafficPattern.layout.Faithful where
  nodup := by decide
  recovers := ⟨⟨trivial, required_recovers _ _ _⟩, required_recovers _ _ _⟩
  build _ := rfl

theorem TrafficPattern.codec_lawful : TrafficPattern.codec.Lawful :=
  TrafficPattern.layout_faithful.codec_lawful _ fun _ =>
    ⟨⟨trivial, Phase.codec_lawful.list _⟩, text_lawful _⟩

theorem LatencyThreshold.layout_faithful : LatencyThreshold.layout.Faithful where
  nodup := by decide
  recovers := ⟨⟨trivial, required_recovers _ _ _⟩, required_recovers _ _ _⟩
  build _ := rfl

theorem LatencyThreshold.codec_lawful : LatencyThreshold.codec.Lawful :=
  LatencyThreshold.layout_faithful.codec_lawful _ fun _ =>
    ⟨⟨trivial, text_lawful _⟩, count32_lawful _⟩

/-- no limit and no thresholds are left out, and both are what their absence means -/
theorem StoppingConditions.layout_faithful : StoppingConditions.layout.Faithful where
  nodup := by decide
  recovers := ⟨⟨trivial, skipping_isNone_recovers rfl⟩, skipping_isEmpty_recovers rfl⟩
  build _ := rfl

theorem StoppingConditions.codec_lawful : StoppingConditions.codec.Lawful :=
  StoppingConditions.layout_faithful.codec_lawful _ fun _ =>
    ⟨⟨trivial, count32_lawful.optional count32_neverNull _⟩, LatencyThreshold.codec_lawful.list _⟩

theorem ResourceLimit.layout_faithful : ResourceLimit.layout.Faithful where
  nodup := by decide
  recovers := ⟨⟨trivial, skipping_isNone_recovers rfl⟩, skipping_isNone_recovers rfl⟩
  build _ := rfl

theorem ResourceLimit.codec_lawful : ResourceLimit.codec.Lawful :=
  ResourceLimit.layout_faithful.codec_lawful _ fun _ =>
    ⟨⟨trivial, count32_lawful.optional count32_neverNull _⟩,
      count32_lawful.optional count32_neverNull _⟩

theorem ParameterRange.layout_faithful : ParameterRange.layout.Faithful where
  nodup := by decide
  recovers := ⟨⟨trivial, required_recovers _ _ _⟩, required_recovers _ _ _⟩
  build _ := rfl

theorem ParameterRange.codec_lawful : ParameterRange.codec.Lawful :=
  ParameterRange.layout_faithful.codec_lawful _ fun _ =>
    ⟨⟨trivial, text_lawful _⟩, text_lawful.list _⟩

theorem EnvironmentRanges.layout_faithful : EnvironmentRanges.layout.Faithful where
  nodup := by decide
  recovers := ⟨trivial, required_recovers _ _ _⟩
  build _ := rfl

theorem EnvironmentRanges.codec_lawful : EnvironmentRanges.codec.Lawful :=
  EnvironmentRanges.layout_faithful.codec_lawful _ fun _ =>
    ⟨trivial, ParameterRange.codec_lawful.list _⟩

theorem EndpointConfiguration.layout_faithful : EndpointConfiguration.layout.Faithful where
  nodup := by decide
  recovers := ⟨⟨trivial, required_recovers _ _ _⟩, required_recovers _ _ _⟩
  build _ := rfl

theorem EndpointConfiguration.codec_lawful : EndpointConfiguration.codec.Lawful :=
  EndpointConfiguration.layout_faithful.codec_lawful _ fun _ =>
    ⟨⟨trivial, EnvironmentRanges.codec_lawful _⟩, text_lawful _⟩

theorem ServerlessConfig.layout_faithful : ServerlessConfig.layout.Faithful where
  nodup := by decide
  recovers := ⟨⟨trivial, required_recovers _ _ _⟩, required_recovers _ _ _⟩
  build _ := rfl

theorem ServerlessConfig.codec_lawful : ServerlessConfig.codec.Lawful :=
  ServerlessConfig.layout_faithful.codec_lawful _ fun _ =>
    ⟨⟨trivial, count32_lawful _⟩, count32_lawful _⟩

/-- absent members are written as null, so nothing is left out -/
theorem AsyncConfig.layout_faithful : AsyncConfig.layout.Faithful where
  nodup := by decide
  recovers := ⟨⟨trivial, optional_recovers _ _ _⟩, optional_recovers _ _ _⟩
  build _ := rfl

theorem AsyncConfig.codec_lawful : AsyncConfig.codec.Lawful :=
  AsyncConfig.layout_faithful.codec_lawful _ fun _ =>
    ⟨⟨trivial, text_lawful.optional text_neverNull _⟩, count32_lawful.optional count32_neverNull _⟩

/-- **Every document that is sent can be read back as it was.** -/
theorem sent_documents_lawful :
    Phase.codec.Lawful ∧ LatencyThreshold.codec.Lawful ∧ ParameterRange.codec.Lawful ∧
      EnvironmentRanges.codec.Lawful ∧ EndpointConfiguration.codec.Lawful ∧
      TrafficPattern.codec.Lawful ∧ StoppingConditions.codec.Lawful ∧
      ResourceLimit.codec.Lawful ∧ ServerlessConfig.codec.Lawful ∧ AsyncConfig.codec.Lawful :=
  ⟨Phase.codec_lawful, LatencyThreshold.codec_lawful, ParameterRange.codec_lawful,
    EnvironmentRanges.codec_lawful, EndpointConfiguration.codec_lawful,
    TrafficPattern.codec_lawful, StoppingConditions.codec_lawful, ResourceLimit.codec_lawful,
    ServerlessConfig.codec_lawful, AsyncConfig.codec_lawful⟩

end RightSizing
