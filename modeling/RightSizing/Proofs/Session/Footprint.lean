import RightSizing.Proofs.Job.Retry
import RightSizing.Proofs.Session.LifeCycle

/-!
# What an action depends on

An action calls the factory of its model and the session that the model has in the end
(`Model.Uses`), and nobody else (`Model.act_uses`).  Since a party answers by the calls made to it,
the histories of these two are all of the past that an action depends on (`Model.act_congr`).
-/

namespace RightSizing

section
variable {σ φ : Type}

/-- the session and the factory of a model -/
def Model.Uses (m : Model σ φ) : Party σ φ → Prop
  | .session s => m.session = some s
  | .factory f => m.factory = some f

theorem LifeCycle.uses {m m' : Model σ φ} {calls : List (Call σ φ)} (h : LifeCycle m calls m') :
    ∀ call ∈ calls, m'.Uses call.party := by
  intro call hcall
  cases h with
  | kept hs hc =>
    rw [hc call hcall]
    exact hs
  | closed hs hc =>
    obtain ⟨f, complaint, hf, rfl⟩ := hc call hcall
    exact hf
  | opened hs hf hb hc =>
    rcases List.mem_append.mp hcall with hcall | hcall
    · obtain ⟨complaint, rfl⟩ := hb call hcall
      exact hf
    · rcases List.mem_cons.mp hcall with rfl | hcall
      · exact hf
      · rw [hc call hcall]
        rfl

variable [DecidableEq σ] [DecidableEq φ]

/-! ## One action -/

theorem Model.act_uses (service : Service σ φ) (past : List (Call σ φ)) (m : Model σ φ)
    (a : Action) : ∀ call ∈ callsOf (m.act service past a).trace,
      (m.act service past a).model.Uses call.party :=
  (m.act_lifeCycle service past a).uses

variable {service : Service σ φ} {past past' : List (Call σ φ)} {m : Model σ φ}

theorem Model.ensureSession_congr
    (hf : ∀ f, m.factory = some f → callsTo (.factory f) past' = callsTo (.factory f) past) :
    m.ensureSession service past' = m.ensureSession service past := by
  unfold ensureSession
  split
  · rfl
  · rfl
  · next f _ h => rw [hf f h]

theorem awaitJob_congr {s : σ} (hs : callsTo (.session s) past' = callsTo (.session s) past)
    (d : JobDocument) (jobName : String) (level : LogLevel) (timing : Timing) :
    awaitJob service past' s d jobName level timing =
      awaitJob service past s d jobName level timing := by
  unfold awaitJob
  rw [hs]

theorem submitJob_congr {s : σ} (hs : callsTo (.session s) past' = callsTo (.session s) past)
    (d : JobDocument) (level : LogLevel) (timing : Timing) :
    submitJob service past' s d level timing = submitJob service past s d level timing := by
  have hafter : ∀ call, callsTo (.session s) (past' ++ [call]) =
      callsTo (.session s) (past ++ [call]) := by
    intro call
    rw [callsTo_append, callsTo_append, hs]
  unfold submitJob
  rw [hs]
  dsimp only
  split
  · rfl
  · rw [awaitJob_congr (hafter _)]

/-- the session that a job is for is the one that its model has in the end -/
theorem Model.rightSize_session {request : JobRequest} {settings : Settings} {d : JobDocument}
    (hd : request.document settings m = .ok d) {s : σ}
    (hs : (m.ensureSession service past).result = .ok s) (timing : Timing) :
    (m.rightSize service past request settings timing).model.session = some s := by
  have hm := m.ensureSession_reaching service past
  unfold rightSize
  rw [hd]
  dsimp only
  generalize m.ensureSession service past = reached at hm hs
  obtain ⟨result, m', trace⟩ := reached
  cases hs
  exact hm.calls_of_ok.1

theorem Model.rightSize_congr {request : JobRequest} {settings : Settings} {timing : Timing}
    (h : ∀ party, (m.rightSize service past request settings timing).model.Uses party →
      callsTo party past' = callsTo party past) :
    m.rightSize service past' request settings timing =
      m.rightSize service past request settings timing := by
  have hsame := (m.rightSize_ending service past request settings timing).sameButSession
  have hreached : m.ensureSession service past' = m.ensureSession service past :=
    ensureSession_congr fun f hf => h (.factory f) (hsame.factory.trans hf)
  cases hd : request.document settings m with
  | error failure =>
    unfold rightSize
    rw [hd]
  | ok d =>
    cases hr : (m.ensureSession service past).result with
    | error failure =>
      unfold rightSize
      rw [hd, hreached]
      dsimp only
      rw [hr]
    | ok s =>
      have hs := h (.session s) (rightSize_session hd hr timing)
      have hafter : callsTo (.session s) (past' ++ callsOf (m.ensureSession service past).trace) =
          callsTo (.session s) (past ++ callsOf (m.ensureSession service past).trace) := by
        rw [callsTo_append, callsTo_append, hs]
      unfold rightSize
      rw [hd, hreached]
      dsimp only
      rw [hr]
      dsimp only
      rw [submitJob_congr hafter]

/-- an action depends on the histories of the parties that its model uses, and on nothing else -/
theorem Model.act_congr {a : Action}
    (h : ∀ party, (m.act service past a).model.Uses party →
      callsTo party past' = callsTo party past) :
    m.act service past' a = m.act service past a := by
  cases a with
  | ensureSession =>
    have hsame := (m.ensureSession_reaching service past).sameButSession
    have hreached : m.ensureSession service past' = m.ensureSession service past :=
      ensureSession_congr fun f hf => h (.factory f) (hsame.factory.trans hf)
    exact congrArg (Step.map Reply.session) hreached
  | rightSize request settings timing =>
    have hjob : m.rightSize service past' request settings timing =
        m.rightSize service past request settings timing := rightSize_congr h
    exact congrArg (Step.map Reply.outcome) hjob

end

end RightSizing
