import RightSizing.Job.Kind
import RightSizing.LoadTest.Documents

/-!
# The job document

A `JobDocument` is everything a session needs to create a recommendation job.  On the wire it is an
object with all fourteen members, null for what is not given, so that nothing absent can be taken
for something empty.
-/

namespace RightSizing

structure JobDocument where
  role : String
  jobName : Option String
  jobType : JobType
  jobDuration : Option UInt32
  packageArn : String
  framework : Option String
  frameworkVersion : Option String
  samplePayloadUrl : Option String
  contentTypes : List String
  instanceTypes : List String
  endpointConfigurations : Option (List EndpointConfiguration)
  trafficPattern : Option TrafficPattern
  stoppingConditions : Option StoppingConditions
  resourceLimit : Option ResourceLimit
deriving DecidableEq, Repr

namespace JobDocument

/-- what is written is what a session is sent.  Nothing reads a document back on the way, so the
reading half is this library's own: a missing text or list is read as the empty one -/
def layout : Layout JobDocument JobDocument :=
  Layout.start JobDocument.mk
    |>.member (.defaulted "role" .text role "")
    |>.member (.optional "job_name" .text jobName)
    |>.member (.required "job_type" JobType.codec jobType)
    |>.member (.optional "job_duration_in_seconds" .count32 jobDuration)
    |>.member (.defaulted "model_package_version_arn" .text packageArn "")
    |>.member (.optional "framework" .text framework)
    |>.member (.optional "framework_version" .text frameworkVersion)
    |>.member (.optional "sample_payload_url" .text samplePayloadUrl)
    |>.member (.defaulted "supported_content_types" (.list .text) contentTypes [])
    |>.member (.defaulted "supported_instance_types" (.list .text) instanceTypes [])
    |>.member (.optional "endpoint_configurations" (.list EndpointConfiguration.codec)
        endpointConfigurations)
    |>.member (.optional "traffic_pattern" TrafficPattern.codec trafficPattern)
    |>.member (.optional "stopping_conditions" StoppingConditions.codec stoppingConditions)
    |>.member (.optional "resource_limit" ResourceLimit.codec resourceLimit)

/-- `write` is the document on the wire; `read` is its inverse, for this library only -/
def codec : Codec JobDocument := layout.codec "RecommendationJobRequest"

/-- some part of the load test is the caller's own -/
def hasAdvancedParameters (d : JobDocument) : Bool :=
  d.endpointConfigurations.isSome || d.trafficPattern.isSome || d.stoppingConditions.isSome ||
    d.resourceLimit.isSome

end JobDocument

end RightSizing
