import RightSizing.Record.Layout

/-!
# Load-test documents

The parts of a job that describe a load test of the caller's own, as they go to the service.  Each
type is followed by its layout, which fixes the names and the order of its members on the wire, and
by its codec.

* `Phase`, `TrafficPattern`              the users that arrive over time
* `LatencyThreshold`, `StoppingConditions`  when the test ends early
* `ResourceLimit`                        how many endpoints the test may use
* `ParameterRange`, `EnvironmentRanges`, `EndpointConfiguration`  what is tested
-/

namespace RightSizing

structure Phase where
  durationInSeconds : UInt32
  initialNumberOfUsers : UInt32
  spawnRate : UInt32
deriving DecidableEq, Repr

def Phase.layout : Layout Phase Phase :=
  Layout.start Phase.mk
    |>.member (.required "DurationInSeconds" .count32 durationInSeconds)
    |>.member (.required "InitialNumberOfUsers" .count32 initialNumberOfUsers)
    |>.member (.required "SpawnRate" .count32 spawnRate)

def Phase.codec : Codec Phase := Phase.layout.codec "Phase"

structure TrafficPattern where
  phases : List Phase
  trafficType : String
deriving DecidableEq, Repr

def TrafficPattern.layout : Layout TrafficPattern TrafficPattern :=
  Layout.start TrafficPattern.mk
    |>.member (.required "Phases" (.list Phase.codec) phases)
    |>.member (.required "TrafficType" .text trafficType)

def TrafficPattern.codec : Codec TrafficPattern := TrafficPattern.layout.codec "TrafficPattern"

/-- a bound on the response time at a percentile such as `P95` -/
structure LatencyThreshold where
  percentile : String
  valueInMilliseconds : UInt32
deriving DecidableEq, Repr

def LatencyThreshold.layout : Layout LatencyThreshold LatencyThreshold :=
  Layout.start LatencyThreshold.mk
    |>.member (.required "Percentile" .text percentile)
    |>.member (.required "ValueInMilliseconds" .count32 valueInMilliseconds)

def LatencyThreshold.codec : Codec LatencyThreshold :=
  LatencyThreshold.layout.codec "ModelLatencyThreshold"

structure StoppingConditions where
  maxInvocations : Option UInt32
  latencyThresholds : List LatencyThreshold
deriving DecidableEq, Repr

def StoppingConditions.layout : Layout StoppingConditions StoppingConditions :=
  Layout.start StoppingConditions.mk
    |>.member (Member.optional "MaxInvocations" .count32 maxInvocations
        |>.skipping Option.isNone)
    |>.member (Member.defaulted "ModelLatencyThresholds" (.list LatencyThreshold.codec)
        latencyThresholds [] |>.skipping List.isEmpty)

def StoppingConditions.codec : Codec StoppingConditions :=
  StoppingConditions.layout.codec "StoppingConditions"

structure ResourceLimit where
  maxNumberOfTests : Option UInt32
  maxParallelOfTests : Option UInt32
deriving DecidableEq, Repr

def ResourceLimit.layout : Layout ResourceLimit ResourceLimit :=
  Layout.start ResourceLimit.mk
    |>.member (Member.optional "MaxNumberOfTests" .count32 maxNumberOfTests
        |>.skipping Option.isNone)
    |>.member (Member.optional "MaxParallelOfTests" .count32 maxParallelOfTests
        |>.skipping Option.isNone)

def ResourceLimit.codec : Codec ResourceLimit := ResourceLimit.layout.codec "ResourceLimit"

/-- a parameter and its candidate values -/
structure ParameterRange where
  name : String
  value : List String
deriving DecidableEq, Repr

def ParameterRange.layout : Layout ParameterRange ParameterRange :=
  Layout.start ParameterRange.mk
    |>.member (.required "Name" .text name)
    |>.member (.required "Value" (.list .text) value)

def ParameterRange.codec : Codec ParameterRange :=
  ParameterRange.layout.codec "CategoricalParameterRange"

structure EnvironmentRanges where
  parameterRanges : List ParameterRange
deriving DecidableEq, Repr

def EnvironmentRanges.layout : Layout EnvironmentRanges EnvironmentRanges :=
  Layout.start EnvironmentRanges.mk
    |>.member (.required "CategoricalParameterRanges" (.list ParameterRange.codec) parameterRanges)

def EnvironmentRanges.codec : Codec EnvironmentRanges :=
  EnvironmentRanges.layout.codec "EnvironmentParameterRanges"

structure EndpointConfiguration where
  environmentRanges : EnvironmentRanges
  instanceType : String
deriving DecidableEq, Repr

def EndpointConfiguration.layout : Layout EndpointConfiguration EndpointConfiguration :=
  Layout.start EndpointConfiguration.mk
    |>.member (.required "EnvironmentParameterRanges" EnvironmentRanges.codec environmentRanges)
    |>.member (.required "InstanceType" .text instanceType)

def EndpointConfiguration.codec : Codec EndpointConfiguration :=
  EndpointConfiguration.layout.codec "EndpointConfiguration"

end RightSizing
