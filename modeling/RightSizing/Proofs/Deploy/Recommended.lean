import RightSizing.Deploy.Target
import RightSizing.Proofs.Recommendation.Extraction

/-!
# Deploying what a job recommends

With no arguments a deploy goes where the first item of the ranked list says, and nothing that
follows this item counts.

* `DeployArguments.empty_target`           a deploy without arguments, by the best recommendation
* `Value.RecommendsInstances`              what an item says of instances
* `DeployArguments.empty_target_of_results`  from the description of a job to the target
-/

namespace RightSizing

/-- the item names an instance type and a count, both in its endpoint configuration -/
def Value.RecommendsInstances (item : Value) (instanceType : String) (count : UInt32) : Prop :=
  ∃ endpoint, item.member? "EndpointConfiguration" 0 = some endpoint ∧
    endpoint.member? "InstanceType" 0 = some (.string instanceType) ∧
    endpoint.member? "InitialInstanceCount" 1 = some (.integer count.toNat)

theorem InferenceRecommendation.recommendsInstances {item : Value} {r : InferenceRecommendation}
    (h : codec.read item = .ok r) :
    item.RecommendsInstances r.endpoint.instanceType r.endpoint.initialInstanceCount := by
  obtain ⟨endpoint, hendpoint, hshows⟩ := (read_eq_ok_iff.mp h).endpoint
  exact ⟨endpoint, hendpoint, hshows.instanceType, hshows.initialInstanceCount⟩

/-- what is deployed for a recommendation without further arguments -/
def InferenceRecommendation.target (r : InferenceRecommendation) : DeployTarget :=
  .instances r.endpoint.instanceType r.endpoint.initialInstanceCount none none

namespace DeployArguments

theorem empty_target (o : JobOutcome) :
    empty.target (some o) =
      (o.top?.elim (.error .noRecommendations) fun best => .ok best.target, []) := by
  cases hbest : o.top? with
  | none =>
    have hrecommended : empty.recommended o = (.error .noRecommendations, []) := by
      unfold recommended
      rw [hbest]
      rfl
    unfold target
    dsimp only
    rw [hrecommended]
    rfl
  | some best =>
    have hrecommended : empty.recommended o =
        (.ok (some (best.endpoint.instanceType, best.endpoint.initialInstanceCount)), []) := by
      unfold recommended
      rw [hbest]
      rfl
    unfold target
    dsimp only
    rw [hrecommended]
    rfl

/-- **What a job recommends first is what is deployed.**  Without arguments there is no target
exactly when the description has no ranked list, null in its place or an empty one.  Otherwise the
target is the instances that the first item names, with their count as it stands there, and neither
an accelerator nor asynchronous settings.  Any other description with this item in front gives the
same target or cannot be read at all; and nothing is noted, so no override is counted. -/
theorem empty_target_of_results {jobName : String} {jobType : JobType} {results : JobResults}
    {completedAt : Int} {o : JobOutcome}
    (h : JobOutcome.ofResults jobName jobType results completedAt = .ok o) :
    let ranked := Value.find? results recommendationsName
    let unranked := ranked = none ∨ ranked = some .null ∨ ranked = some (.array [])
    let answer := empty.target (some o)
    answer.2 = [] ∧
      (answer.1 = .error .noRecommendations ↔ unranked) ∧
      (¬ unranked → ∃ item rest instanceType count,
        ranked = some (.array (item :: rest)) ∧
          answer.1 = .ok (.instances instanceType count none none) ∧
          item.RecommendsInstances instanceType count) ∧
      ∀ item rest, ranked = some (.array (item :: rest)) →
        ∀ jobName' jobType' results' completedAt' rest',
          Value.find? results' recommendationsName = some (.array (item :: rest')) →
            match JobOutcome.ofResults jobName' jobType' results' completedAt' with
            | .ok o' => empty.target (some o') = answer
            | .error failure => ∃ error, failure = .malformedResults error := by
  intro ranked unranked answer
  have hanswer : answer = _ := empty_target o
  have hnone : o.top? = none ↔ unranked :=
    (JobOutcome.top?_eq_none_iff h).trans or_assoc
  refine ⟨congrArg Prod.snd hanswer, ?_, ?_, ?_⟩
  · rw [hanswer, ← hnone]
    cases o.top? with
    | none => exact iff_of_true rfl rfl
    | some best => exact iff_of_false nofun nofun
  · intro hranked
    rw [← hnone] at hranked
    obtain ⟨best, hbest⟩ := Option.ne_none_iff_exists'.mp hranked
    obtain ⟨item, rest, hitem, hread⟩ := (JobOutcome.top?_eq_some_iff h).mp hbest
    refine ⟨item, rest, best.endpoint.instanceType, best.endpoint.initialInstanceCount, hitem, ?_,
      InferenceRecommendation.recommendsInstances hread⟩
    rw [hanswer, hbest]
    rfl
  · intro item rest hitem jobName' jobType' results' completedAt' rest' hitem'
    split
    · next o' h' =>
      -- both outcomes have what is read of this item in front
      have htop : o'.top? = o.top? := by
        refine Option.ext fun best => ?_
        rw [JobOutcome.top?_eq_some_iff_of_first h hitem,
          JobOutcome.top?_eq_some_iff_of_first h' hitem']
      rw [hanswer, empty_target, htop]
    · next failure h' => exact malformed_of_ofResults h'

end DeployArguments

/-- an item for some instances of a type -/
def itemFor (instanceType : String) (count : Int) : Value :=
  .object [("EndpointConfiguration", .object
    [("InitialInstanceCount", .integer count), ("InstanceType", .string instanceType)])]

/-- of two items the first is deployed, and so it is when the second is another or none -/
theorem empty_target_of_two :
    let results : List Value → JobResults := fun rest =>
      [(recommendationsName, .array (itemFor "first" 2 :: rest)), ("JobName", .string "job")]
    ∃ o, JobOutcome.ofResults "job" .default (results [itemFor "second" 1]) 0 = .ok o ∧
      DeployArguments.empty.target (some o) = (.ok (.instances "first" 2 none none), []) ∧
      ∀ o' rest, JobOutcome.ofResults "job" .default (results rest) 1 = .ok o' →
        DeployArguments.empty.target (some o') = DeployArguments.empty.target (some o) := by
  intro results
  have h : JobOutcome.ofResults "job" .default (results [itemFor "second" 1]) 0 = .ok _ := rfl
  obtain ⟨hnotes, -, -, hlater⟩ := DeployArguments.empty_target_of_results h
  refine ⟨_, h, Prod.ext rfl hnotes, fun o' rest h' => ?_⟩
  have hsame := hlater _ _ rfl "job" .default (results rest) 1 rest rfl
  rw [h'] at hsame
  exact hsame

end RightSizing
