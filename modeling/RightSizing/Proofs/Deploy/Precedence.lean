import RightSizing.Proofs.Deploy.Recommended

/-!
# Arguments against recommendations

A recommendation goes with no argument at all.  So there are four ways to look at one
(`DeployArguments.Look`): it is refused for the accelerator, overridden by the first argument that
is given, missing, or used as it is.  Whatever is asked of a deploy is told by these four.

* `DeployArguments.recommended_look`      every look is one of the four
* `DeployArguments.target_some`           with an outcome, the target is settled by the look
* `DeployArguments.target_ignores`        what is overridden does not matter for the target
* `DeployArguments.target_origin`         where instances and serverless targets come from
-/

namespace RightSizing.DeployArguments

variable {a : DeployArguments} {o : JobOutcome}

theorem overriding?_eq_none_iff : a.overriding? = none ↔
    a.instanceType = none ∧ a.initialInstanceCount = none ∧ a.asyncConfig = none ∧
      a.serverlessConfig = none := by
  unfold overriding?
  cases a.instanceType <;> cases a.initialInstanceCount <;> cases a.asyncConfig <;>
    cases a.serverlessConfig <;> simp

theorem eq_empty_iff : a = empty ↔ a.acceleratorType = none ∧ a.overriding? = none := by
  constructor
  · rintro rfl
    exact ⟨rfl, rfl⟩
  · intro ⟨haccelerator, hnone⟩
    obtain ⟨htype, hcount, hasync, hserverless⟩ := overriding?_eq_none_iff.mp hnone
    obtain ⟨instanceType, count, accelerator, serverless, async⟩ := a
    dsimp only at haccelerator htype hcount hasync hserverless
    rw [haccelerator, htype, hcount, hasync, hserverless]
    rfl

/-! ## One look at a recommendation -/

/-- what looking at the recommendations of an outcome gives, and what is noted about it -/
inductive Look (a : DeployArguments) (o : JobOutcome) :
    Except Failure (Option (String × UInt32)) × List Note → Prop where
  | refused (h : a.acceleratorType ≠ none) : Look a o (.error .acceleratorNotSupported, [])
  | overridden {w : Overriding} (h : a.acceleratorType = none) (hw : a.overriding? = some w) :
    Look a o (.ok none, w.notes)
  | missing (h : a = empty) (hbest : o.top? = none) : Look a o (.error .noRecommendations, [])
  | used {best : InferenceRecommendation} (h : a = empty) (hbest : o.top? = some best) :
    Look a o (.ok (some (best.endpoint.instanceType, best.endpoint.initialInstanceCount)), [])

theorem recommended_look (a : DeployArguments) (o : JobOutcome) : Look a o (a.recommended o) := by
  unfold recommended
  cases haccelerator : a.acceleratorType with
  | some accelerator =>
    have h : a.acceleratorType ≠ none := by
      rw [haccelerator]
      exact Option.some_ne_none accelerator
    exact .refused h
  | none =>
    rw [if_neg (by simp)]
    cases hw : a.overriding? with
    | some w => exact .overridden haccelerator hw
    | none =>
      have hempty : a = empty := eq_empty_iff.mpr ⟨haccelerator, hw⟩
      cases hbest : o.top? with
      | none => exact .missing hempty hbest
      | some best => exact .used hempty hbest

/-- the target after a look -/
def settle (a : DeployArguments) :
    Except Failure (Option (String × UInt32)) → Except Failure DeployTarget
  | .error failure => .error failure
  | .ok none => a.place a.instanceType a.initialInstanceCount
  | .ok (some (instanceType, count)) => a.place (some instanceType) (some count)

theorem target_none (a : DeployArguments) :
    a.target none = (a.place a.instanceType a.initialInstanceCount, []) := rfl

theorem target_some (a : DeployArguments) (o : JobOutcome) :
    a.target (some o) = (a.settle (a.recommended o).1, (a.recommended o).2) := by
  have h := recommended_look a o
  unfold target
  dsimp only
  generalize a.recommended o = look at h
  cases h <;> rfl

theorem exists_look (a : DeployArguments) (o : JobOutcome) :
    ∃ look, Look a o look ∧ a.target (some o) = (a.settle look.1, look.2) :=
  ⟨a.recommended o, recommended_look a o, target_some a o⟩

theorem target_of_accelerator (h : a.acceleratorType ≠ none) (o : JobOutcome) :
    a.target (some o) = (.error .acceleratorNotSupported, []) := by
  obtain ⟨look, hlook, htarget⟩ := exists_look a o
  rw [htarget]
  cases hlook with
  | refused => rfl
  | overridden hnone => exact absurd hnone h
  | missing hempty => exact absurd (eq_empty_iff.mp hempty).1 h
  | used hempty => exact absurd (eq_empty_iff.mp hempty).1 h

theorem target_of_overriding {w : Overriding} (h : a.acceleratorType = none)
    (hw : a.overriding? = some w) (o : JobOutcome) :
    a.target (some o) = ((a.target none).1, w.notes) := by
  have hne : a ≠ empty := by
    intro hempty
    rw [(eq_empty_iff.mp hempty).2] at hw
    cases hw
  obtain ⟨look, hlook, htarget⟩ := exists_look a o
  rw [htarget]
  cases hlook with
  | refused haccelerator => exact absurd h haccelerator
  | overridden _ hw' =>
    rw [hw, Option.some.injEq] at hw'
    rw [hw']
    rfl
  | missing hempty => exact absurd hempty hne
  | used hempty => exact absurd hempty hne

/-- **An argument makes the recommendation irrelevant.**  Where an argument overrides it, the target
or the failure is the one that is there without any outcome, whatever the outcome is; and what is
noted is the same for all outcomes.  With an accelerator every outcome fails in the same way,
whatever else is given. -/
theorem target_ignores (a : DeployArguments) :
    (a.acceleratorType = none →
      (a.instanceType.isSome ∨ a.initialInstanceCount.isSome ∨ a.asyncConfig.isSome ∨
        a.serverlessConfig.isSome) →
      ∀ o₁ o₂ : JobOutcome, a.target (some o₁) = a.target (some o₂) ∧
        (a.target (some o₁)).1 = (a.target none).1) ∧
    (a.acceleratorType.isSome →
      ∀ o : JobOutcome, (a.target (some o)).1 = .error .acceleratorNotSupported) := by
  constructor
  · intro h hgiven o₁ o₂
    have hsome : a.overriding? ≠ none := by
      intro hnone
      obtain ⟨htype, hcount, hasync, hserverless⟩ := overriding?_eq_none_iff.mp hnone
      rw [htype, hcount, hasync, hserverless] at hgiven
      rcases hgiven with h | h | h | h <;> cases h
    obtain ⟨w, hw⟩ := Option.ne_none_iff_exists'.mp hsome
    rw [target_of_overriding h hw o₁, target_of_overriding h hw o₂]
    exact ⟨rfl, rfl⟩
  · intro h o
    have haccelerator : a.acceleratorType ≠ none := Option.isSome_iff_ne_none.mp h
    rw [target_of_accelerator haccelerator o]

/-- a count alone overrides the best recommendation, which would have named a type; and a type with
a count is the target instead of it -/
theorem target_ignores_of_count :
    let lone : DeployArguments := { empty with initialInstanceCount := some 4 }
    let whole : DeployArguments := { lone with instanceType := some "own" }
    let unranked : JobOutcome := ⟨"job", .default, [], [], 0⟩
    let ranked : JobOutcome := ⟨"job", .default, [], [⟨⟨"first", 2, none, none⟩, none, none⟩], 0⟩
    (lone.target (some ranked) = lone.target (some unranked) ∧
      (lone.target (some ranked)).1 = .error .missingDeployTarget) ∧
    (whole.target (some ranked) = whole.target (some unranked) ∧
      (whole.target (some ranked)).1 = .ok (.instances "own" 4 none none)) := by
  intro lone whole unranked ranked
  obtain ⟨hlone, hfailed⟩ := (target_ignores lone).1 rfl (.inr (.inl rfl)) ranked unranked
  obtain ⟨hwhole, hfound⟩ := (target_ignores whole).1 rfl (.inl rfl) ranked unranked
  exact ⟨⟨hlone, hfailed⟩, hwhole, hfound⟩

/-! ## Where a target comes from -/

section
variable {given : Option String} {number : Option UInt32} {instanceType : String} {count : UInt32}
  {accelerator : Option String} {async : Option AsyncConfig} {serverless : ServerlessConfig}

theorem place_eq_instances_iff :
    a.place given number = .ok (.instances instanceType count accelerator async) ↔
      a.serverlessConfig = none ∧ given = some instanceType ∧ number = some count ∧
        accelerator = a.acceleratorType ∧ async = a.asyncConfig := by
  unfold place
  cases a.serverlessConfig with
  | some config => simp
  | none =>
    cases given with
    | none => simp
    | some t =>
      cases number with
      | none => simp
      | some n =>
        simp only [Except.ok.injEq, DeployTarget.instances.injEq, Option.some.injEq, true_and]
        rw [eq_comm (a := accelerator), eq_comm (a := async)]

theorem place_eq_serverless_iff :
    a.place given number = .ok (.serverless serverless) ↔
      a.serverlessConfig = some serverless := by
  unfold place
  cases a.serverlessConfig with
  | some config => simp
  | none => cases given <;> cases number <;> simp

/-- both stand in the arguments, and no accelerator stands against an outcome -/
def Names (a : DeployArguments) (outcome : Option JobOutcome) (instanceType : String)
    (count : UInt32) : Prop :=
  a.instanceType = some instanceType ∧ a.initialInstanceCount = some count ∧
    (outcome = none ∨ a.acceleratorType = none)

/-- nothing is given at all, and both stand in the best recommendation -/
def Takes (a : DeployArguments) (outcome : Option JobOutcome) (instanceType : String)
    (count : UInt32) : Prop :=
  a = empty ∧ ∃ o best, outcome = some o ∧ o.recommendations.head? = some best ∧
    best.endpoint.instanceType = instanceType ∧ best.endpoint.initialInstanceCount = count

theorem Takes.not_overridden {outcome : Option JobOutcome}
    (h : a.Takes outcome instanceType count) : a.acceleratorType = none ∧ a.overriding? = none :=
  eq_empty_iff.mp h.1

theorem target_eq_instances_iff (outcome : Option JobOutcome) :
    (a.target outcome).1 = .ok (.instances instanceType count accelerator async) ↔
      accelerator = a.acceleratorType ∧ async = a.asyncConfig ∧ a.serverlessConfig = none ∧
        (a.Names outcome instanceType count ∨ a.Takes outcome instanceType count) := by
  cases outcome with
  | none =>
    have htakes : ¬ a.Takes none instanceType count := by
      rintro ⟨-, o, best, h, -⟩
      cases h
    rw [target_none, place_eq_instances_iff]
    unfold Names
    tauto
  | some o =>
    obtain ⟨look, hlook, htarget⟩ := exists_look a o
    rw [htarget]
    cases hlook with
    | refused haccelerator =>
      refine iff_of_false nofun ?_
      rintro ⟨-, -, -, ⟨-, -, h | h⟩ | htakes⟩
      · cases h
      · exact haccelerator h
      · exact haccelerator htakes.not_overridden.1
    | overridden haccelerator hw =>
      have htakes : ¬ a.Takes (some o) instanceType count := by
        intro htakes
        rw [htakes.not_overridden.2] at hw
        cases hw
      show a.place a.instanceType a.initialInstanceCount = _ ↔ _
      rw [place_eq_instances_iff]
      unfold Names
      tauto
    | missing hempty hbest =>
      refine iff_of_false nofun ?_
      rintro ⟨-, -, -, ⟨h, -⟩ | ⟨-, o', best, ho, hbest', -⟩⟩
      · rw [hempty] at h
        cases h
      · cases ho
        rw [JobOutcome.top?, hbest'] at hbest
        cases hbest
    | @used best hempty hbest =>
      have hnames : ¬ a.Names (some o) instanceType count := by
        rintro ⟨h, -⟩
        rw [hempty] at h
        cases h
      have htakes : a.Takes (some o) instanceType count ↔
          best.endpoint.instanceType = instanceType ∧
            best.endpoint.initialInstanceCount = count := by
        constructor
        · rintro ⟨-, o', best', ho, hbest', h⟩
          cases ho
          have hsame : best' = best := Option.some.inj (hbest'.symm.trans hbest)
          exact hsame ▸ h
        · intro h
          exact ⟨hempty, o, best, rfl, hbest, h⟩
      show a.place (some _) (some _) = _ ↔ _
      rw [place_eq_instances_iff, htakes]
      simp only [Option.some.injEq]
      tauto

theorem target_eq_serverless_iff (outcome : Option JobOutcome) :
    (a.target outcome).1 = .ok (.serverless serverless) ↔
      a.serverlessConfig = some serverless ∧ ¬ (outcome.isSome ∧ a.acceleratorType.isSome) := by
  cases outcome with
  | none =>
    rw [target_none, place_eq_serverless_iff]
    simp
  | some o =>
    obtain ⟨look, hlook, htarget⟩ := exists_look a o
    rw [htarget]
    cases hlook with
    | refused haccelerator =>
      refine iff_of_false nofun ?_
      rintro ⟨-, h⟩
      exact h ⟨rfl, Option.isSome_iff_ne_none.mpr haccelerator⟩
    | overridden haccelerator hw =>
      show a.place a.instanceType a.initialInstanceCount = _ ↔ _
      rw [place_eq_serverless_iff, haccelerator]
      simp
    | missing hempty =>
      refine iff_of_false nofun ?_
      rw [hempty]
      rintro ⟨h, -⟩
      cases h
    | used hempty =>
      refine iff_of_false ?_ ?_
      · rw [hempty]
        nofun
      · rw [hempty]
        rintro ⟨h, -⟩
        cases h

/-- **Where a target comes from.**  A target of instances has the accelerator and the asynchronous
settings of the arguments, which have no serverless configuration.  Its type and count are both
arguments, or nothing at all is given and both are those of the best recommendation; so a given
value and a recommended one never meet.  A serverless target is the configuration that is given,
unless an accelerator stands against an outcome. -/
theorem target_origin (a : DeployArguments) (outcome : Option JobOutcome) :
    (∀ instanceType count accelerator async,
      (a.target outcome).1 = .ok (.instances instanceType count accelerator async) ↔
        accelerator = a.acceleratorType ∧ async = a.asyncConfig ∧ a.serverlessConfig = none ∧
          (a.Names outcome instanceType count ∨ a.Takes outcome instanceType count)) ∧
    ∀ serverless, (a.target outcome).1 = .ok (.serverless serverless) ↔
      a.serverlessConfig = some serverless ∧ ¬ (outcome.isSome ∧ a.acceleratorType.isSome) :=
  ⟨fun _ _ _ _ => target_eq_instances_iff outcome, fun _ => target_eq_serverless_iff outcome⟩

end

end RightSizing.DeployArguments
