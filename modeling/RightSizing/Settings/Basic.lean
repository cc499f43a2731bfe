import RightSizing.Job.Kind
import RightSizing.LoadTest.Expansion

/-!
# Settings

Defaults for what a request leaves open.  Every member of a `Settings` record may be missing; the
defaults of the defaults are verbose output, a duration chosen by the service, and phased traffic.
-/

namespace RightSizing

structure Settings where
  logLevel : LogLevel
  /-- the longest duration of a job -/
  jobDuration : Option UInt32
  /-- the traffic type of phases that are given without one -/
  trafficType : String
deriving DecidableEq, Repr

namespace Settings

def standard : Settings := ⟨.verbose, none, TrafficPattern.defaultType⟩

def layout : Layout Settings Settings :=
  Layout.start Settings.mk
    |>.member (.defaulted "log_level" LogLevel.codec logLevel standard.logLevel)
    |>.member (.defaulted "job_duration_in_seconds" (.optional .count32) jobDuration
        standard.jobDuration)
    |>.member (.defaulted "default_traffic_type" .text trafficType standard.trafficType)

def codec : Codec Settings := layout.codec "RecommenderConfig"

end Settings

end RightSizing
