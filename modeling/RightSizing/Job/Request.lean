import RightSizing.Framework
import RightSizing.Job.Document
import RightSizing.Model
import RightSizing.Settings.Basic

/-!
# What the caller asks for

A `JobRequest` holds the parameters of a recommendation job.  `JobRequest.document` makes the job
document of a registered model from them: the framework is the caller's or the detected one, what is
left open is taken from the settings, and any load-test parameter makes the job an advanced one.
-/

namespace RightSizing

structure JobRequest where
  samplePayloadUrl : Option String
  contentTypes : List String
  instanceTypes : List String
  jobName : Option String
  framework : Option String
  jobDuration : Option UInt32
  sweeps : List Sweep
  phases : List Phase
  trafficType : Option String
  maxInvocations : Option UInt32
  latencyThresholds : List LatencyThreshold
  maxTests : Option UInt32
  maxParallelTests : Option UInt32
  logLevel : Option LogLevel
deriving DecidableEq, Repr

namespace JobRequest

/-- nothing but the model -/
def empty : JobRequest :=
  ⟨none, [], [], none, none, none, [], [], none, none, [], none, none, none⟩

/-- the traffic type of the request, or else of the settings -/
def resolvedTrafficType (r : JobRequest) (s : Settings) : String :=
  (nonBlank? r.trafficType).getD s.trafficType

def resolvedLogLevel (r : JobRequest) (s : Settings) : LogLevel := r.logLevel.getD s.logLevel

/-- the document with its parts in place, and the kind of job that follows from them -/
def assemble {σ φ : Type} (r : JobRequest) (s : Settings) (m : Model σ φ) (arn : String)
    (configurations : Option (List EndpointConfiguration)) : JobDocument :=
  let trafficPattern := TrafficPattern.ofPhases? (some (r.resolvedTrafficType s)) r.phases
  let stoppingConditions := StoppingConditions.ofLimits? r.maxInvocations r.latencyThresholds
  let resourceLimit := ResourceLimit.ofLimits? r.maxTests r.maxParallelTests
  let jobType :=
    if configurations.isSome || trafficPattern.isSome || stoppingConditions.isSome ||
      resourceLimit.isSome then JobType.advanced else .default
  { role := m.role
    jobName := r.jobName
    jobType
    jobDuration := r.jobDuration.or s.jobDuration
    packageArn := arn
    framework := Framework.resolve r.framework m.framework
    frameworkVersion := m.frameworkVersion
    samplePayloadUrl := r.samplePayloadUrl
    contentTypes := r.contentTypes
    instanceTypes := r.instanceTypes
    endpointConfigurations := configurations
    trafficPattern
    stoppingConditions
    resourceLimit }

/-- the job document, if the model is registered and every sweep lists instance types -/
def document {σ φ : Type} (r : JobRequest) (s : Settings) (m : Model σ φ) :
    Except Failure JobDocument :=
  match m.packageArn? with
  | none => .error .notRegistered
  | some arn => (EndpointConfiguration.ofSweeps r.sweeps).map (r.assemble s m arn)

end JobRequest

end RightSizing
