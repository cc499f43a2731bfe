import RightSizing.Record.Layout

/-!
# Recommendations

What the service recommends: an endpoint, what was measured on it, and a model configuration that is
kept as it came.

Beside equality, `InferenceRecommendation.agree` compares two recommendations by the values of their
numbers, so that the two zeros agree.
-/

namespace RightSizing

structure RecommendedEndpoint where
  instanceType : String
  initialInstanceCount : UInt32
  variantName : Option String
  endpointName : Option String
deriving DecidableEq, Repr

/-- may be missing in either form, and is not written when there is none -/
def Member.hidden (name : String) (content : Codec α) (get : ρ → Option α) : Member ρ (Option α) :=
  (Member.defaulted name content.optional get none).skipping Option.isNone

def RecommendedEndpoint.layout : Layout RecommendedEndpoint RecommendedEndpoint :=
  Layout.start RecommendedEndpoint.mk
    |>.member (.required "InstanceType" .text instanceType)
    |>.member (.required "InitialInstanceCount" .count32 initialInstanceCount)
    |>.member (.hidden "VariantName" .text variantName)
    |>.member (.hidden "EndpointName" .text endpointName)

def RecommendedEndpoint.codec : Codec RecommendedEndpoint :=
  RecommendedEndpoint.layout.codec "RecommendedEndpoint"

/-- what the load test measured -/
structure RecommendationMetrics where
  costPerHour : Option Binary64
  costPerInference : Option Binary64
  maxInvocations : Option UInt64
  modelLatency : Option UInt64
deriving DecidableEq, Repr

def RecommendationMetrics.layout : Layout RecommendationMetrics RecommendationMetrics :=
  Layout.start RecommendationMetrics.mk
    |>.member (.defaulted "CostPerHour" (.optional .double) costPerHour none)
    |>.member (.defaulted "CostPerInference" (.optional .double) costPerInference none)
    |>.member (.defaulted "MaxInvocations" (.optional .count64) maxInvocations none)
    |>.member (.defaulted "ModelLatency" (.optional .count64) modelLatency none)

def RecommendationMetrics.codec : Codec RecommendationMetrics :=
  RecommendationMetrics.layout.codec "RecommendationMetrics"

/-- one entry of the ranked list -/
structure InferenceRecommendation where
  endpoint : RecommendedEndpoint
  metrics : Option RecommendationMetrics
  modelConfiguration : Option Value
deriving Repr

def InferenceRecommendation.layout : Layout InferenceRecommendation InferenceRecommendation :=
  Layout.start InferenceRecommendation.mk
    |>.member (.required "EndpointConfiguration" RecommendedEndpoint.codec endpoint)
    |>.member (.hidden "Metrics" RecommendationMetrics.codec metrics)
    |>.member (.hidden "ModelConfiguration" .free modelConfiguration)

def InferenceRecommendation.codec : Codec InferenceRecommendation :=
  InferenceRecommendation.layout.codec "InferenceRecommendation"

/-! ## Agreement -/

/-- both absent, or both present and alike -/
def agreeOption (agree : α → α → Bool) : Option α → Option α → Bool
  | none, none => true
  | some a, some b => agree a b
  | _, _ => false

def RecommendationMetrics.agree (a b : RecommendationMetrics) : Bool :=
  agreeOption Binary64.agree a.costPerHour b.costPerHour &&
    agreeOption Binary64.agree a.costPerInference b.costPerInference &&
    decide (a.maxInvocations = b.maxInvocations) && decide (a.modelLatency = b.modelLatency)

def InferenceRecommendation.agree (a b : InferenceRecommendation) : Bool :=
  decide (a.endpoint = b.endpoint) && agreeOption RecommendationMetrics.agree a.metrics b.metrics &&
    agreeOption Value.agree a.modelConfiguration b.modelConfiguration

end RightSizing
