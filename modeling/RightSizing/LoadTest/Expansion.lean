import RightSizing.Failure
import RightSizing.Framework
import RightSizing.LoadTest.Documents
import RightSizing.Sweep

/-!
# From load-test parameters to documents

Each function makes one document of a job, or none when the caller gave nothing for it; a job with
none of them is a default job.

* `EndpointConfiguration.ofSweeps`   one configuration for each instance type of each sweep
* `TrafficPattern.ofPhases?`         the phases, with a traffic type that is never empty
* `StoppingConditions.ofLimits?`, `ResourceLimit.ofLimits?`   limits, zero being no limit
-/

namespace RightSizing

def ParameterRange.ofEntry (entry : String × Candidates) : ParameterRange :=
  ⟨entry.1, entry.2.values⟩

/-- one configuration for each instance type, all with the same environment -/
def Sweep.configurations (s : Sweep) (instanceTypes : Candidates) : List EndpointConfiguration :=
  instanceTypes.values.map fun instanceType =>
    ⟨⟨s.environment.map ParameterRange.ofEntry⟩, instanceType⟩

namespace EndpointConfiguration

/-- the configurations of all sweeps, each of which has to list instance types -/
def ofAll : List Sweep → Except Failure (List EndpointConfiguration)
  | [] => .ok []
  | s :: sweeps =>
    match s.instanceTypes? with
    | none => .error .missingInstanceTypes
    | some types => (ofAll sweeps).map (s.configurations types ++ ·)

def ofSweeps : List Sweep → Except Failure (Option (List EndpointConfiguration))
  | [] => .ok none
  | s :: sweeps => (ofAll (s :: sweeps)).map some

end EndpointConfiguration

/-- the traffic type of phases that are given without one -/
def TrafficPattern.defaultType : String := "PHASES"

def TrafficPattern.ofPhases? (trafficType : Option String) : List Phase → Option TrafficPattern
  | [] => none
  | phase :: phases =>
    some ⟨phase :: phases, (nonBlank? trafficType).getD defaultType⟩

/-- a limit of zero is no limit -/
def nonZero? (limit : Option UInt32) : Option UInt32 := limit.filter (· ≠ 0)

def StoppingConditions.ofLimits? (maxInvocations : Option UInt32)
    (thresholds : List LatencyThreshold) : Option StoppingConditions :=
  match nonZero? maxInvocations, thresholds with
  | none, [] => none
  | limit, thresholds => some ⟨limit, thresholds⟩

def ResourceLimit.ofLimits? (maxTests maxParallelTests : Option UInt32) : Option ResourceLimit :=
  match nonZero? maxTests, nonZero? maxParallelTests with
  | none, none => none
  | tests, parallel => some ⟨tests, parallel⟩

end RightSizing
