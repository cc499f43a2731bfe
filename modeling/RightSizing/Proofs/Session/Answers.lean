import RightSizing.Job.Campaign

/-!
# Where answers come from

A trace shows the calls of a run with their answers.  `Answered` says that a list of calls is no
invention: each has the answer that the service gives to it, by the calls made to the same party
before.  It splits along lists of calls (`Answered_append`), so it holds of a job
(`rightSize_answered`) and of every campaign (`Campaign.run_answered`), whose history it describes
completely (`Campaign.run_calls`).
-/

namespace RightSizing

section
variable {σ φ : Type} [DecidableEq σ] [DecidableEq φ]

theorem callsTo_append (party : Party σ φ) (calls more : List (Call σ φ)) :
    callsTo party (calls ++ more) = callsTo party calls ++ callsTo party more :=
  List.filter_append calls more

theorem callsTo_concat (calls : List (Call σ φ)) (call : Call σ φ) :
    callsTo call.party (calls ++ [call]) = callsTo call.party calls ++ [call] := by
  rw [callsTo_append]
  simp [callsTo]

/-- a party hears nothing of calls to others -/
theorem callsTo_append_of_forall_ne {party : Party σ φ} (calls : List (Call σ φ))
    {more : List (Call σ φ)} (h : ∀ call ∈ more, call.party ≠ party) :
    callsTo party (calls ++ more) = callsTo party calls := by
  have hmore : callsTo party more = [] := by
    unfold callsTo
    rw [List.filter_eq_nil_iff]
    intro call hc
    rw [decide_eq_true_eq]
    exact h call hc
  rw [callsTo_append, hmore, List.append_nil]

/-- the answer of a call is the one that the service gives after some calls -/
def Call.answeredBy (service : Service σ φ) (past : List (Call σ φ)) : Call σ φ → Prop
  | .build f answer => answer = service.build f (callsTo (.factory f) past)
  | .create s document answer => answer = service.create s (callsTo (.session s) past) document
  | .wait s jobName level answer =>
    answer = service.wait s (callsTo (.session s) past) jobName level

/-- each call of a list is answered by the service, after the calls in front of it -/
def Answered (service : Service σ φ) (past : List (Call σ φ)) : List (Call σ φ) → Prop
  | [] => True
  | c :: calls => c.answeredBy service past ∧ Answered service (past ++ [c]) calls

theorem Answered_nil (service : Service σ φ) (past : List (Call σ φ)) :
    Answered service past [] := trivial
theorem Answered_append (service : Service σ φ) (past calls more : List (Call σ φ)) :
    Answered service past (calls ++ more) ↔
      Answered service past calls ∧ Answered service (past ++ calls) more := by
  induction calls generalizing past with
  | nil => simp [Answered]
  | cons c calls ih =>
    rw [List.cons_append, Answered, Answered, ih, and_assoc, List.append_assoc]
    rfl

/-! ## One job -/

theorem ensureSession_answered (service : Service σ φ) (past : List (Call σ φ)) (m : Model σ φ) :
    Answered service past (callsOf (m.ensureSession service past).trace) := by
  unfold Model.ensureSession
  split
  · exact Answered_nil service past
  · exact Answered_nil service past
  · next f _ hf =>
    cases hb : service.build f (callsTo (.factory f) past) <;> exact ⟨hb.symm, trivial⟩

theorem awaitJob_answered (service : Service σ φ) (past : List (Call σ φ)) (s : σ)
    (d : JobDocument) (jobName : String) (level : LogLevel) (timing : Timing) :
    Answered service past (callsOf (awaitJob service past s d jobName level timing).2) := by
  unfold awaitJob
  cases hw : service.wait s (callsTo (.session s) past) jobName level with
  | error complaint => exact ⟨hw.symm, trivial⟩
  | ok results =>
    dsimp only
    split <;> exact ⟨hw.symm, trivial⟩

theorem submitJob_answered (service : Service σ φ) (past : List (Call σ φ)) (s : σ)
    (d : JobDocument) (level : LogLevel) (timing : Timing) :
    Answered service past (callsOf (submitJob service past s d level timing).2) := by
  unfold submitJob
  cases hc : service.create s (callsTo (.session s) past) d with
  | error complaint => exact ⟨hc.symm, trivial⟩
  | ok jobName => exact ⟨hc.symm, awaitJob_answered service _ s d jobName level timing⟩

theorem rightSize_answered (service : Service σ φ) (past : List (Call σ φ)) (m : Model σ φ)
    (request : JobRequest) (settings : Settings) (timing : Timing) :
    Answered service past (callsOf (m.rightSize service past request settings timing).trace) := by
  have hs := ensureSession_answered service past m
  unfold Model.rightSize
  split
  · exact Answered_nil service past
  · dsimp only
    split
    · exact hs
    · next d _ _ s _ =>
      show Answered service past (callsOf (_ ++ _))
      rw [callsOf_append, Answered_append]
      exact ⟨hs, submitJob_answered service _ s d _ timing⟩

theorem act_answered (service : Service σ φ) (past : List (Call σ φ)) (m : Model σ φ) (a : Action) :
    Answered service past (callsOf (m.act service past a).trace) := by
  cases a with
  | ensureSession => exact ensureSession_answered service past m
  | rightSize request settings timing =>
    exact rightSize_answered service past m request settings timing

end

/-! ## A campaign -/

namespace Campaign

variable {ι σ φ : Type} [DecidableEq ι] [DecidableEq σ] [DecidableEq φ]

/-- the history grows by the calls of the steps, and by nothing else -/
theorem run_calls (service : Service σ φ) (c : Campaign ι σ φ) (actions : List (ι × Action)) :
    (run service c actions).1.calls =
      c.calls ++ (run service c actions).2.flatMap fun step => callsOf step.trace := by
  induction actions generalizing c with
  | nil => rw [run_nil, List.flatMap_nil, List.append_nil]
  | cons action actions ih =>
    obtain ⟨i, a⟩ := action
    rw [run_cons, ih, List.flatMap_cons, ← List.append_assoc]
    rfl

theorem run_answered (service : Service σ φ) (c : Campaign ι σ φ) (actions : List (ι × Action)) :
    Answered service c.calls
      ((run service c actions).2.flatMap fun step => callsOf step.trace) := by
  induction actions generalizing c with
  | nil => exact Answered_nil service c.calls
  | cons action actions ih =>
    obtain ⟨i, a⟩ := action
    rw [run_cons, List.flatMap_cons, Answered_append]
    exact ⟨act_answered service c.calls (c.models i) a, ih (act service c i a).1⟩

/-- the step of an action is what the action does to the campaign before it -/
theorem run_step (service : Service σ φ) (c : Campaign ι σ φ) (before after : List (ι × Action))
    (i : ι) (a : Action) :
    (run service c (before ++ (i, a) :: after)).2[before.length]? =
      some (act service (run service c before).1 i a).2 := by
  induction before generalizing c with
  | nil => rfl
  | cons action before ih =>
    rw [List.cons_append, run_cons, List.length_cons, List.getElem?_cons_succ, ih]
    rfl

end Campaign

end RightSizing
