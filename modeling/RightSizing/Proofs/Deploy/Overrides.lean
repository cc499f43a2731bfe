import RightSizing.Proofs.Deploy.Precedence
import RightSizing.Proofs.Session.Trace

/-!
# What deploys count

A deploy that passes over a recommendation says so twice, by a warning and by a counter, both under
the reason for it.  `DeployCall` is a look at a recommendation or the search for a target, and the
notes of many calls are those of each call in a row; so the books of a call are enough.

* `DeployArguments.reasons`       the reasons that the arguments give, the first one counts
* `DeployCall.notes_cases`        a call notes one override or nothing
* `KeepsOverrides`                warnings and counters, each as many as the calls that override
* `LookKeepsCount`                what was counted, by what a look gave
* `DeployCall.run_keepsOverrides` both, over every list of calls
-/

namespace RightSizing

/-- the reasons for passing over a recommendation, in the order in which they are looked for -/
def DeployArguments.reasons (a : DeployArguments) : List String :=
  ([("instance_type", a.instanceType.isSome || a.initialInstanceCount.isSome),
    ("async_inference_config", a.asyncConfig.isSome),
    ("serverless_inference_config", a.serverlessConfig.isSome)].filter (·.2)).map (·.1)

theorem DeployArguments.head?_reasons (a : DeployArguments) :
    a.reasons.head? = a.overriding?.map Overriding.reason := by
  unfold reasons overriding?
  cases a.instanceType <;> cases a.initialInstanceCount <;> cases a.asyncConfig <;>
    cases a.serverlessConfig <;> rfl

/-- a deploy warns that it passes over a recommendation for some reason -/
def Event.isOverridden (reason : String) : Event → Bool
  | overridden r _ => r = reason
  | _ => false

inductive DeployCall where
  /-- a look at the best recommendation -/
  | look (a : DeployArguments) (o : JobOutcome)
  /-- the search for a target -/
  | resolve (a : DeployArguments) (outcome : Option JobOutcome)

namespace DeployCall

def arguments : DeployCall → DeployArguments
  | look a _ => a
  | resolve a _ => a

def outcome? : DeployCall → Option JobOutcome
  | look _ o => some o
  | resolve _ outcome => outcome

def notes : DeployCall → List Note
  | look a o => (a.recommended o).2
  | resolve a outcome => (a.target outcome).2

/-- there is an outcome to pass over, and the first argument that is given is the reason -/
def overrides (reason : String) (c : DeployCall) : Bool :=
  c.outcome?.isSome && c.arguments.acceleratorType.isNone &&
    decide (c.arguments.reasons.head? = some reason)

/-- whether a target was looked for does not matter for the notes -/
theorem notes_of_outcome {c : DeployCall} {o : JobOutcome} (h : c.outcome? = some o) :
    c.notes = (c.arguments.recommended o).2 := by
  cases c with
  | look a o' =>
    cases h
    rfl
  | resolve a outcome =>
    obtain rfl : outcome = some o := h
    show (a.target (some o)).2 = (a.recommended o).2
    rw [DeployArguments.target_some]

theorem notes_of_no_outcome {c : DeployCall} (h : c.outcome? = none) : c.notes = [] := by
  cases c with
  | look a o => cases h
  | resolve a outcome =>
    obtain rfl : outcome = none := h
    rfl

theorem notes_cases (c : DeployCall) :
    (∃ w : Overriding, c.notes = w.notes ∧ ∀ r, c.overrides r = decide (w.reason = r)) ∨
      (c.notes = [] ∧ ∀ r, c.overrides r = false) := by
  unfold overrides
  rw [DeployArguments.head?_reasons]
  cases houtcome : c.outcome? with
  | none => exact .inr ⟨notes_of_no_outcome houtcome, fun _ => rfl⟩
  | some o =>
    have hlook := c.arguments.recommended_look o
    rw [notes_of_outcome houtcome]
    generalize c.arguments.recommended o = look at hlook
    cases hlook with
    | refused haccelerator =>
      have hnone : c.arguments.acceleratorType.isNone = false :=
        Option.isNone_eq_false_iff.mpr (Option.isSome_iff_ne_none.mpr haccelerator)
      refine .inr ⟨rfl, fun r => ?_⟩
      rw [hnone]
      rfl
    | @overridden w haccelerator hw =>
      refine .inl ⟨w, rfl, fun r => ?_⟩
      rw [haccelerator, hw]
      simp
    | missing hempty =>
      refine .inr ⟨rfl, fun r => ?_⟩
      rw [hempty]
      rfl
    | used hempty =>
      refine .inr ⟨rfl, fun r => ?_⟩
      rw [hempty]
      rfl

end DeployCall

/-! ## The books -/

/-- warnings and counters of overrides are as many as the calls that override; nothing else is
counted, logged or observed -/
structure KeepsOverrides (notes : List Note) (calls : List DeployCall) : Prop where
  warned : ∀ r, (eventsOf notes).countP (Event.isOverridden r) =
    calls.countP (DeployCall.overrides r)
  counted : ∀ r, moved (.override r) notes = UInt64.ofNat (calls.countP (DeployCall.overrides r))
  others : ∀ counter, (∀ r, counter ≠ .override r) → moved counter notes = 0
  waits : waitsOf notes = []
  warnings : ∀ e ∈ eventsOf notes, ∃ w : Overriding, e = .overridden w.reason w.message

namespace KeepsOverrides

variable {notes more : List Note} {calls further : List DeployCall}

theorem nothing : KeepsOverrides [] [] :=
  ⟨fun _ => rfl, fun _ => rfl, fun _ _ => rfl, rfl, nofun⟩

theorem append (h : KeepsOverrides notes calls) (h' : KeepsOverrides more further) :
    KeepsOverrides (notes ++ more) (calls ++ further) where
  warned r := by
    rw [eventsOf_append, List.countP_append, List.countP_append, h.warned, h'.warned]
  counted r := by
    rw [moved_append, List.countP_append, UInt64.ofNat_add, h.counted, h'.counted]
  others counter hcounter := by
    rw [moved_append, h.others counter hcounter, h'.others counter hcounter, UInt64.add_zero]
  waits := by
    rw [waitsOf_append, h.waits, h'.waits, List.append_nil]
  warnings e he := by
    rw [eventsOf_append, List.mem_append] at he
    rcases he with he | he
    · exact h.warnings e he
    · exact h'.warnings e he

theorem of_override {c : DeployCall} {w : Overriding}
    (h : ∀ r, c.overrides r = decide (w.reason = r)) : KeepsOverrides w.notes [c] where
  warned r := by
    rw [List.countP_singleton, h]
    simp [Overriding.notes, Event.isOverridden, List.countP_singleton]
  counted r := by
    rw [List.countP_singleton, h]
    by_cases hr : w.reason = r <;> simp [Overriding.notes, hr]
  others counter hcounter := by
    have hne : Counter.override w.reason ≠ counter := (hcounter w.reason).symm
    simp [Overriding.notes, hne]
  waits := rfl
  warnings e he := ⟨w, List.mem_singleton.mp he⟩

theorem of_silence {c : DeployCall} (h : ∀ r, c.overrides r = false) : KeepsOverrides [] [c] where
  warned r := by
    rw [List.countP_singleton, h]
    rfl
  counted r := by
    rw [List.countP_singleton, h]
    rfl
  others _ _ := rfl
  waits := rfl
  warnings := nofun

end KeepsOverrides

theorem DeployCall.keepsOverrides (c : DeployCall) : KeepsOverrides c.notes [c] := by
  rcases c.notes_cases with ⟨w, hnotes, hoverrides⟩ | ⟨hnotes, hoverrides⟩
  · rw [hnotes]
    exact .of_override hoverrides
  · rw [hnotes]
    exact .of_silence hoverrides

theorem DeployCall.run_keepsBooks (calls : List DeployCall) :
    KeepsOverrides (calls.flatMap DeployCall.notes) calls := by
  induction calls with
  | nil => exact .nothing
  | cons c calls ih =>
    rw [List.flatMap_cons]
    exact c.keepsOverrides.append ih

/-! ## One look -/

/-- the counter of one reason moves by one, and those of all others stand still -/
def CountsOverride (notes : List Note) : Prop :=
  ∃ reason, ∀ r, moved (.override r) notes = if reason = r then 1 else 0

def CountsNoOverride (notes : List Note) : Prop := ∀ r, moved (.override r) notes = 0

theorem Overriding.countsOverride (w : Overriding) : CountsOverride w.notes :=
  ⟨w.reason, fun r => by by_cases h : w.reason = r <;> simp [Overriding.notes, h]⟩

theorem not_countsOverride_nil : ¬ CountsOverride [] := by
  rintro ⟨reason, h⟩
  have hone := h reason
  rw [if_pos rfl] at hone
  cases hone

/-- an override is counted exactly when a look gives nothing, also if there is no target then -/
structure LookKeepsCount (a : DeployArguments) (o : JobOutcome) : Prop where
  overridden : (a.recommended o).1 = .ok none ↔ CountsOverride (a.recommended o).2
  resolved : (a.recommended o).1 = .ok none → CountsOverride (a.target (some o)).2
  missing : (a.target (some o)).1 = .error .missingDeployTarget →
    CountsOverride (a.target (some o)).2
  otherwise : (a.recommended o).1 ≠ .ok none →
    CountsNoOverride (a.recommended o).2 ∧ CountsNoOverride (a.target (some o)).2

namespace LookKeepsCount

variable {a : DeployArguments} {o : JobOutcome}

theorem of_overridden {w : Overriding} (h : a.recommended o = (.ok none, w.notes)) :
    LookKeepsCount a o where
  overridden := by
    rw [h]
    exact iff_of_true rfl w.countsOverride
  resolved _ := by
    rw [a.target_some, h]
    exact w.countsOverride
  missing _ := by
    rw [a.target_some, h]
    exact w.countsOverride
  otherwise hne := by
    rw [h] at hne
    exact absurd rfl hne

/-- a look that fails or finds something is never the cause of a missing target -/
theorem of_silent {look : Except Failure (Option (String × UInt32))}
    (h : a.recommended o = (look, [])) (hlook : look ≠ .ok none)
    (hsettle : a.settle look ≠ .error .missingDeployTarget) : LookKeepsCount a o where
  overridden := by
    rw [h]
    exact iff_of_false hlook not_countsOverride_nil
  resolved hnone := by
    rw [h] at hnone
    exact absurd hnone hlook
  missing hmissing := by
    rw [a.target_some, h] at hmissing
    exact absurd hmissing hsettle
  otherwise _ := by
    rw [a.target_some, h]
    exact ⟨fun _ => rfl, fun _ => rfl⟩

end LookKeepsCount

theorem DeployArguments.look_keepsCount (a : DeployArguments) (o : JobOutcome) :
    LookKeepsCount a o := by
  have hlook := a.recommended_look o
  generalize hrecommended : a.recommended o = look at hlook
  cases hlook with
  | refused => exact .of_silent hrecommended nofun nofun
  | overridden => exact .of_overridden hrecommended
  | missing => exact .of_silent hrecommended nofun nofun
  | used hempty =>
    refine .of_silent hrecommended nofun ?_
    rw [hempty]
    nofun

/-- **Overrides are counted as often as they are warned of**, over every list of calls and for every
reason: once for each call with an outcome and without an accelerator whose first argument is the
reason.  No other counter moves, nothing else is logged, and no wait is observed.  A look gives
nothing exactly when it has counted one override; a failure of the look, a recommendation that is
used and a search without an outcome count none, and a search that ends without a target for want
of arguments has counted its override all the same. -/
theorem DeployCall.run_keepsOverrides (calls : List DeployCall) :
    KeepsOverrides (calls.flatMap DeployCall.notes) calls ∧
      (∀ a o, LookKeepsCount a o) ∧
      ∀ a : DeployArguments, CountsNoOverride (a.target none).2 :=
  ⟨run_keepsBooks calls, DeployArguments.look_keepsCount, fun _ _ => rfl⟩

end RightSizing
