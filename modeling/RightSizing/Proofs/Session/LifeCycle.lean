import RightSizing.Job.Campaign
import RightSizing.Proofs.Job.Ending

/-!
# The life of a session

A model has no session, or it has one for good.  `LifeCycle m calls m'` says how the calls made for
a model take it from `m` to `m'`: with a session every call goes to it; without one the factory is
asked, in vain or until it gives a session, which is kept.  Lives follow one another
(`LifeCycle.trans`), so what a step does (`Model.act_lifeCycle`) is what a run does
(`Campaign.run_lifeCycle`).

* `Model.act_reaching`          an action reaches the session before it does anything else
* `Model.act_builds_iff`        the factory is asked when the session is needed and not there
* `Campaign.run_keepsSession`   the life of a session in a campaign
-/

namespace RightSizing

section
variable {σ φ : Type}

/-- a session builds nothing -/
theorem countP_isBuilt_of_session {s : σ} {calls : List (Call σ φ)}
    (h : ∀ call ∈ calls, call.party = .session s) : calls.countP isBuilt = 0 := by
  refine List.countP_eq_zero.mpr fun call hc => ?_
  have hp := h call hc
  cases call with
  | build f answer => cases hp
  | create s d answer => nofun
  | wait s jobName level answer => nofun

inductive LifeCycle (m : Model σ φ) : List (Call σ φ) → Model σ φ → Prop
  /-- a session that is there is kept -/
  | kept {s : σ} {calls : List (Call σ φ)} (hs : m.session = some s)
      (hc : ∀ call ∈ calls, call.party = .session s) : LifeCycle m calls m
  /-- a factory that fails leaves no session, and is not forgotten -/
  | closed {calls : List (Call σ φ)} (hs : m.session = none)
      (hc : ∀ call ∈ calls,
        ∃ f complaint, m.factory = some f ∧ call = .build f (.error complaint)) :
      LifeCycle m calls m
  | opened {f : φ} {s : σ} {failures calls : List (Call σ φ)} (hs : m.session = none)
      (hf : m.factory = some f)
      (hb : ∀ call ∈ failures, ∃ complaint, call = .build f (.error complaint))
      (hc : ∀ call ∈ calls, call.party = .session s) :
      LifeCycle m (failures ++ .build f (.ok s) :: calls) (m.withSession s)

namespace LifeCycle

variable {m m' m'' : Model σ φ} {calls more : List (Call σ φ)}

theorem refl (m : Model σ φ) : LifeCycle m [] m := by
  cases hs : m.session with
  | none => exact .closed hs (by simp)
  | some s => exact .kept hs (by simp)

theorem trans (h : LifeCycle m calls m') (h' : LifeCycle m' more m'') :
    LifeCycle m (calls ++ more) m'' := by
  cases h with
  | kept hs hc =>
    cases h' with
    | kept hs' hc' =>
      cases hs.symm.trans hs'
      exact .kept hs fun call h => (List.mem_append.mp h).elim (hc call) (hc' call)
    | closed hs' => cases hs.symm.trans hs'
    | opened hs' => cases hs.symm.trans hs'
  | closed hs hc =>
    cases h' with
    | kept hs' => cases hs.symm.trans hs'
    | closed _ hc' =>
      exact .closed hs fun call h => (List.mem_append.mp h).elim (hc call) (hc' call)
    | opened _ hf hb hc' =>
      rw [← List.append_assoc]
      refine .opened hs hf (fun call h => ?_) hc'
      rcases List.mem_append.mp h with h | h
      · obtain ⟨f, complaint, hf', rfl⟩ := hc call h
        cases hf.symm.trans hf'
        exact ⟨complaint, rfl⟩
      · exact hb call h
  | opened hs hf hb hc =>
    cases h' with
    | kept hs' hc' =>
      cases hs'
      rw [List.append_assoc, List.cons_append]
      exact .opened hs hf hb fun call h => (List.mem_append.mp h).elim (hc call) (hc' call)
    | closed hs' => cases hs'
    | opened hs' => cases hs'

/-- a session stays, and so does the whole model -/
theorem of_session {s : σ} (h : LifeCycle m calls m') (hs : m.session = some s) :
    m' = m ∧ ∀ call ∈ calls, call.party = .session s := by
  cases h with
  | kept hs' hc =>
    cases hs.symm.trans hs'
    exact ⟨rfl, hc⟩
  | closed hs' => cases hs.symm.trans hs'
  | opened hs' => cases hs.symm.trans hs'

/-- a session is built once at most -/
theorem countP_isBuilt_le (h : LifeCycle m calls m') : calls.countP isBuilt ≤ 1 := by
  cases h with
  | kept hs hc =>
    rw [countP_isBuilt_of_session hc]
    exact Nat.zero_le 1
  | closed hs hc =>
    rw [List.countP_eq_zero.mpr fun call h => ?_]
    · exact Nat.zero_le 1
    · obtain ⟨f, complaint, -, rfl⟩ := hc call h
      nofun
  | opened hs hf hb hc =>
    rw [List.countP_append, List.countP_cons, countP_isBuilt_of_session hc,
      List.countP_eq_zero.mpr fun call h => ?_]
    · split <;> decide
    · obtain ⟨complaint, rfl⟩ := hb call h
      nofun

end LifeCycle

/-! ## One action -/

theorem Reaching.lifeCycle {m : Model σ φ} {step : Step σ φ σ} (h : Reaching m step) :
    LifeCycle m (callsOf step.trace) step.model := by
  cases h with
  | attached hs => exact .kept hs (by simp)
  | unavailable hs hf => exact .closed hs (by simp)
  | built hs hf =>
    show LifeCycle m ([] ++ .build _ (.ok _) :: []) _
    exact .opened hs hf (by simp) (by simp)
  | unbuilt hs hf =>
    refine .closed hs fun call h => ?_
    exact ⟨_, _, hf, List.mem_singleton.mp h⟩

theorem Reaching.builds_iff {m : Model σ φ} {step : Step σ φ σ} (h : Reaching m step) (f : φ) :
    (∃ answer, .build f answer ∈ callsOf step.trace) ↔ m.session = none ∧ m.factory = some f := by
  cases h with
  | attached hs => simp [hs]
  | unavailable hs hf => simp [hf]
  | built hs hf => simp [hs, hf, eq_comm]
  | unbuilt hs hf => simp [hs, hf, eq_comm]

/-- what the factory answers decides whether there is a session -/
theorem Reaching.session_of_build {m : Model σ φ} {step : Step σ φ σ} (h : Reaching m step) {f : φ}
    {answer : Except Complaint σ} (hb : .build f answer ∈ callsOf step.trace) :
    step.model.session = answer.toOption := by
  cases h with
  | attached hs => cases hb
  | unavailable hs hf => cases hb
  | built hs hf =>
    cases List.mem_singleton.mp hb
    rfl
  | unbuilt hs hf =>
    cases List.mem_singleton.mp hb
    exact hs

/-- a job whose request is rejected needs no session -/
def Action.needsSession (m : Model σ φ) : Action → Prop
  | .ensureSession => True
  | .rightSize request settings _ => ∃ d, request.document settings m = .ok d

variable [DecidableEq σ] [DecidableEq φ]

theorem Model.act_of_not_needsSession (service : Service σ φ) (past : List (Call σ φ))
    (m : Model σ φ) {a : Action} (hn : ¬ a.needsSession m) :
    (m.act service past a).model = m ∧ callsOf (m.act service past a).trace = [] := by
  cases a with
  | ensureSession => exact absurd trivial hn
  | rightSize request settings timing =>
    have h := m.rightSize_ending service past request settings timing
    generalize hstep : m.rightSize service past request settings timing = step at h
    rw [Model.act, hstep]
    cases h with
    | rejected hd => exact ⟨rfl, rfl⟩
    | unreached hd hm => exact absurd ⟨_, hd⟩ hn
    | submitted hd hm hs => exact absurd ⟨_, hd⟩ hn

/-- a session that is needed is reached first, and whatever is called then belongs to it -/
theorem Model.act_reaching (service : Service σ φ) (past : List (Call σ φ)) (m : Model σ φ)
    {a : Action} (hn : a.needsSession m) :
    ∃ reached rest, Reaching m reached ∧ (m.act service past a).model = reached.model ∧
      callsOf (m.act service past a).trace = callsOf reached.trace ++ rest ∧
      ∀ call ∈ rest, ∃ s, reached.model.session = some s ∧ call.party = .session s := by
  cases a with
  | ensureSession =>
    exact ⟨_, [], m.ensureSession_reaching service past, rfl, (List.append_nil _).symm, by simp⟩
  | rightSize request settings timing =>
    have h := m.rightSize_ending service past request settings timing
    generalize hstep : m.rightSize service past request settings timing = step at h
    rw [Model.act, hstep]
    cases h with
    | rejected hd =>
      obtain ⟨d, hd'⟩ := hn
      cases hd.symm.trans hd'
    | unreached hd hm => exact ⟨_, [], hm, rfl, (List.append_nil _).symm, by simp⟩
    | submitted hd hm hs =>
      refine ⟨_, _, hm, rfl, callsOf_append _ _, fun call hc => ⟨_, hm.calls_of_ok.1, ?_⟩⟩
      exact hs.party call hc

theorem Model.act_lifeCycle (service : Service σ φ) (past : List (Call σ φ)) (m : Model σ φ)
    (a : Action) :
    LifeCycle m (callsOf (m.act service past a).trace) (m.act service past a).model := by
  by_cases hn : a.needsSession m
  · obtain ⟨reached, rest, hr, hm, hc, hrest⟩ := m.act_reaching service past hn
    rw [hm, hc]
    refine hr.lifeCycle.trans ?_
    cases hs : reached.model.session with
    | some s =>
      refine .kept hs fun call h => ?_
      obtain ⟨s', hs', hp⟩ := hrest call h
      cases hs.symm.trans hs'
      exact hp
    | none =>
      refine .closed hs fun call h => ?_
      obtain ⟨s', hs', -⟩ := hrest call h
      cases hs.symm.trans hs'
  · obtain ⟨hm, hc⟩ := m.act_of_not_needsSession service past hn
    rw [hm, hc]
    exact .refl m

theorem Model.act_builds_iff (service : Service σ φ) (past : List (Call σ φ)) (m : Model σ φ)
    (a : Action) (f : φ) :
    (∃ answer, .build f answer ∈ callsOf (m.act service past a).trace) ↔
      m.session = none ∧ m.factory = some f ∧ a.needsSession m := by
  by_cases hn : a.needsSession m
  · obtain ⟨reached, rest, hr, -, hc, hrest⟩ := m.act_reaching service past hn
    have hb : ∀ answer, .build f answer ∉ rest := by
      intro answer h
      obtain ⟨s, -, hp⟩ := hrest _ h
      cases hp
    simp only [hc, List.mem_append, hb, or_false, hr.builds_iff, hn, and_true]
  · obtain ⟨-, hc⟩ := m.act_of_not_needsSession service past hn
    simp [hc, hn]

theorem Model.act_session_of_build (service : Service σ φ) (past : List (Call σ φ)) (m : Model σ φ)
    (a : Action) {f : φ} {answer : Except Complaint σ}
    (hb : .build f answer ∈ callsOf (m.act service past a).trace) :
    (m.act service past a).model.session = answer.toOption := by
  obtain ⟨-, -, hn⟩ := (m.act_builds_iff service past a f).mp ⟨answer, hb⟩
  obtain ⟨reached, rest, hr, hm, hc, hrest⟩ := m.act_reaching service past hn
  rw [hm]
  rw [hc] at hb
  rcases List.mem_append.mp hb with hb | hb
  · exact hr.session_of_build hb
  · obtain ⟨s, -, hp⟩ := hrest _ hb
    cases hp

end

/-! ## A campaign -/

namespace Campaign

variable {ι σ φ : Type} [DecidableEq ι] [DecidableEq σ] [DecidableEq φ]

/-- the calls that a run makes for one model -/
def callsFor (service : Service σ φ) (c : Campaign ι σ φ) (i : ι) (actions : List (ι × Action)) :
    List (Call σ φ) :=
  ((actions.zip (run service c actions).2).filter (·.1.1 = i)).flatMap fun p => callsOf p.2.trace

theorem callsFor_nil (service : Service σ φ) (c : Campaign ι σ φ) (i : ι) :
    callsFor service c i [] = [] := rfl
theorem callsFor_cons (service : Service σ φ) (c : Campaign ι σ φ) (i j : ι) (a : Action)
    (actions : List (ι × Action)) :
    callsFor service c i ((j, a) :: actions) =
      (if j = i then callsOf (act service c j a).2.trace else []) ++
        callsFor service (act service c j a).1 i actions := by
  unfold callsFor
  rw [run_cons, List.zip_cons_cons, List.filter_cons]
  by_cases h : j = i
  · rw [if_pos (decide_eq_true h), if_pos h, List.flatMap_cons]
  · rw [if_neg (by simp [h]), if_neg h, List.nil_append]
theorem callsFor_append (service : Service σ φ) (c : Campaign ι σ φ) (i : ι)
    (actions more : List (ι × Action)) :
    callsFor service c i (actions ++ more) =
      callsFor service c i actions ++ callsFor service (run service c actions).1 i more := by
  induction actions generalizing c with
  | nil => rw [callsFor_nil, run_nil, List.nil_append, List.nil_append]
  | cons action actions ih =>
    obtain ⟨j, a⟩ := action
    rw [List.cons_append, callsFor_cons, ih, callsFor_cons, run_cons, List.append_assoc]

theorem run_lifeCycle (service : Service σ φ) (c : Campaign ι σ φ) (i : ι)
    (actions : List (ι × Action)) :
    LifeCycle (c.models i) (callsFor service c i actions) ((run service c actions).1.models i) := by
  induction actions generalizing c with
  | nil =>
    rw [callsFor_nil, run_nil]
    exact .refl (c.models i)
  | cons action actions ih =>
    obtain ⟨j, a⟩ := action
    rw [callsFor_cons, run_cons]
    refine LifeCycle.trans ?_ (ih (act service c j a).1)
    show LifeCycle (c.models i) _ (setModel c.models j _ i)
    -- what is done to another model leaves this one as it is
    by_cases hj : j = i
    · subst hj
      rw [if_pos rfl, setModel_self]
      exact (c.models j).act_lifeCycle service c.calls a
    · rw [if_neg hj, setModel_of_ne _ _ (Ne.symm hj)]
      exact .refl (c.models i)

/-- **A model builds one session at most and keeps it**, whatever is done in between.  At every
point of a campaign the next action asks the factory exactly when it needs a session and there is
none; a failure leaves none, and with a session nothing but this session is called ever after. -/
theorem run_keepsSession (service : Service σ φ) (c : Campaign ι σ φ) (i : ι)
    (actions more : List (ι × Action)) (a : Action) :
    let reached := (run service c actions).1
    let m := reached.models i
    let step := (act service reached i a).2
    LifeCycle (c.models i) (callsFor service c i actions) m ∧
      (callsFor service c i actions).countP isBuilt ≤ 1 ∧
      (∀ f, (∃ answer, .build f answer ∈ callsOf step.trace) ↔
        m.session = none ∧ m.factory = some f ∧ a.needsSession m) ∧
      (∀ f answer, .build f answer ∈ callsOf step.trace →
        step.model.session = answer.toOption) ∧
      ∀ s, m.session = some s →
        (run service c (actions ++ more)).1.models i = m ∧
          ∃ later, callsFor service c i (actions ++ more) =
              callsFor service c i actions ++ later ∧
            ∀ call ∈ later, call.party = .session s := by
  intro reached m step
  have hlife := run_lifeCycle service c i actions
  refine ⟨hlife, hlife.countP_isBuilt_le, m.act_builds_iff service reached.calls a,
    fun f answer => m.act_session_of_build service reached.calls a, fun s hs => ?_⟩
  obtain ⟨hm, hlater⟩ := (run_lifeCycle service reached i more).of_session hs
  rw [run_append]
  exact ⟨hm, _, callsFor_append service c i actions more, hlater⟩

end Campaign

end RightSizing
