import RightSizing.Recommendation.Outcome
import RightSizing.Telemetry.Counter

/-!
# Deploy targets

A deploy places a model on instances or serverless.  It takes the best recommendation of a finished
job, or the arguments of the caller; explicit arguments always win, and a recommendation is used
only when nothing speaks against it.

* `DeployArguments.overriding?`  the first argument that overrides a recommendation
* `DeployArguments.recommended`  what a job recommends for the arguments, if they leave room for it
* `DeployArguments.target`       where the model goes
-/

namespace RightSizing

/-- the size of a serverless endpoint -/
structure ServerlessConfig where
  memorySizeInMb : UInt32
  maxConcurrency : UInt32
deriving DecidableEq, Repr

namespace ServerlessConfig

def standard : ServerlessConfig := ⟨2048, 5⟩

def layout : Layout ServerlessConfig ServerlessConfig :=
  Layout.start ServerlessConfig.mk
    |>.member (.required "memory_size_in_mb" .count32 memorySizeInMb)
    |>.member (.required "max_concurrency" .count32 maxConcurrency)

def codec : Codec ServerlessConfig := layout.codec "ServerlessInferenceConfig"

end ServerlessConfig

/-- settings of asynchronous invocations -/
structure AsyncConfig where
  outputPath : Option String
  maxInvocationsPerInstance : Option UInt32
deriving DecidableEq, Repr

namespace AsyncConfig

def standard : AsyncConfig := ⟨none, none⟩

def layout : Layout AsyncConfig AsyncConfig :=
  Layout.start AsyncConfig.mk
    |>.member (.optional "output_path" .text outputPath)
    |>.member (.optional "max_concurrent_invocations_per_instance" .count32
        maxInvocationsPerInstance)

def codec : Codec AsyncConfig := layout.codec "AsyncInferenceConfig"

end AsyncConfig

/-! ## Arguments and targets -/

structure DeployArguments where
  instanceType : Option String
  initialInstanceCount : Option UInt32
  acceleratorType : Option String
  serverlessConfig : Option ServerlessConfig
  asyncConfig : Option AsyncConfig
deriving DecidableEq, Repr

inductive DeployTarget where
  | instances (instanceType : String) (initialInstanceCount : UInt32)
      (acceleratorType : Option String) (asyncConfig : Option AsyncConfig)
  | serverless (config : ServerlessConfig)
deriving DecidableEq, Repr

/-- an argument that overrides a recommendation -/
inductive Overriding where
  | instanceType
  | asyncConfig
  | serverlessConfig
deriving DecidableEq, Repr

namespace Overriding

def all : List Overriding := [instanceType, asyncConfig, serverlessConfig]

def reason : Overriding → String
  | instanceType => "instance_type"
  | asyncConfig => "async_inference_config"
  | serverlessConfig => "serverless_inference_config"

def message : Overriding → String
  | instanceType => "instance_type or initial_instance_count specified. " ++
      "Overriding right_size() recommendations."
  | asyncConfig => "async_inference_config is specified. Overriding right_size() recommendations."
  | serverlessConfig =>
      "serverless_inference_config is specified. Overriding right_size() recommendations."

/-- what is noted when a recommendation is overridden -/
def notes (o : Overriding) : List Note :=
  [.count (.override o.reason) 1, .event (.overridden o.reason o.message)]

end Overriding

namespace DeployArguments

def empty : DeployArguments := ⟨none, none, none, none, none⟩

def overriding? (a : DeployArguments) : Option Overriding :=
  if a.instanceType.isSome || a.initialInstanceCount.isSome then some .instanceType
  else if a.asyncConfig.isSome then some .asyncConfig
  else if a.serverlessConfig.isSome then some .serverlessConfig
  else none

/-- instance type and count of the best recommendation, or nothing when an argument overrides it -/
def recommended (a : DeployArguments) (outcome : JobOutcome) :
    Except Failure (Option (String × UInt32)) × List Note :=
  if a.acceleratorType.isSome then (.error .acceleratorNotSupported, [])
  else match a.overriding?, outcome.top? with
    | some o, _ => (.ok none, o.notes)
    | none, none => (.error .noRecommendations, [])
    | none, some best =>
      (.ok (some (best.endpoint.instanceType, best.endpoint.initialInstanceCount)), [])

/-- the target for a pair of instance type and count, each of which may be missing -/
def place (a : DeployArguments) (instanceType : Option String) (count : Option UInt32) :
    Except Failure DeployTarget :=
  match a.serverlessConfig, instanceType, count with
  | some config, _, _ => .ok (.serverless config)
  | none, some instanceType, some count =>
    .ok (.instances instanceType count a.acceleratorType a.asyncConfig)
  | none, _, _ => .error .missingDeployTarget

def target (a : DeployArguments) (outcome : Option JobOutcome) :
    Except Failure DeployTarget × List Note :=
  match outcome with
  | none => (a.place a.instanceType a.initialInstanceCount, [])
  | some outcome =>
    match a.recommended outcome with
    | (.error failure, notes) => (.error failure, notes)
    | (.ok (some (instanceType, count)), notes) => (a.place (some instanceType) (some count), notes)
    | (.ok none, notes) => (a.place a.instanceType a.initialInstanceCount, notes)

end DeployArguments

end RightSizing
