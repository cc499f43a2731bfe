import RightSizing.Failure
import RightSizing.Job.Kind
import RightSizing.Recommendation.Basic

/-!
# Outcomes of jobs

When a job is over, its session returns a description: the members of an object, of which
`InferenceRecommendations` holds the ranked list, best first.  `recommendationsOf` reads that list;
without it, or with null in its place, there are no recommendations.  A `JobOutcome` keeps the
description as it came beside what was read from it.
-/

namespace RightSizing

/-- the description of a job that is over -/
abbrev JobResults := Value.Members

/-- the member with the ranked list -/
def recommendationsName : String := "InferenceRecommendations"

/-- all recommendations in order, or the fault of the first that cannot be read -/
def recommendationsOf (results : JobResults) : Except Failure (List InferenceRecommendation) :=
  match Value.find? results recommendationsName with
  | none | some .null => .ok []
  | some ranked =>
    ((Codec.list InferenceRecommendation.codec).read ranked).mapError .malformedResults

structure JobOutcome where
  jobName : String
  jobType : JobType
  results : JobResults
  recommendations : List InferenceRecommendation
  /-- seconds since the epoch -/
  completedAt : Int
deriving Repr

namespace JobOutcome

def ofResults (jobName : String) (jobType : JobType) (results : JobResults) (completedAt : Int) :
    Except Failure JobOutcome :=
  (recommendationsOf results).map fun recommendations =>
    ⟨jobName, jobType, results, recommendations, completedAt⟩

/-- the best recommendation -/
def top? (o : JobOutcome) : Option InferenceRecommendation := o.recommendations.head?

end JobOutcome

end RightSizing
