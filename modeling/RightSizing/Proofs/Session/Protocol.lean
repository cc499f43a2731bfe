import Mathlib.Data.List.Basic
import RightSizing.Proofs.Job.Ending
import RightSizing.Proofs.Session.Answers

/-!
# The protocol of a job

What a session may rely on, and what an outcome stands for.  `KeepsProtocol` is said about the calls
of a job, the session behind it and its result:

* one job at most is created, from the document of the model as it stood, and one at most is waited
  for, with the name that its creation gave and at the same session;
* a call that failed is the last one: nothing is tried twice, and nothing is done after it;
* an outcome is returned exactly when the last two calls created a job and waited for it, and the
  description can be read; it carries their answers.

`Ending.keepsProtocol` proves it of every way a job can end, and `Campaign.run_keepsProtocol` of
every job of a campaign, beside the fact that the history of the campaign is made of the calls of
its steps, with the answers of the service.
-/

namespace RightSizing

section
variable {σ φ : Type}

structure KeepsProtocol (m : Model σ φ) (request : JobRequest) (settings : Settings)
    (timing : Timing) (calls : List (Call σ φ)) (session : Option σ)
    (result : Except Failure JobOutcome) : Prop where
  creates_le : calls.countP isCreate ≤ 1
  waits_le : calls.countP isWait ≤ 1
  document : ∀ s d answer, .create s d answer ∈ calls → request.document settings m = .ok d
  level : ∀ s jobName level answer, .wait s jobName level answer ∈ calls →
    level = request.logLevel.getD settings.logLevel
  /-- a wait is the last call, right behind the creation of its job -/
  created : ∀ s jobName level answer, .wait s jobName level answer ∈ calls →
    ∃ d, [.create s d (.ok jobName), .wait s jobName level answer] <:+ calls
  /-- a call that failed has nothing behind it -/
  stops : ∀ c ∈ calls.dropLast, c.succeeded = true
  /-- with a document and a session the job is created -/
  creates : ∀ d s, request.document settings m = .ok d → session = some s →
    ∃ answer, .create s d answer ∈ calls
  /-- a job that is created is waited for -/
  waits : ∀ s d jobName, .create s d (.ok jobName) ∈ calls →
    ∃ level answer, .wait s jobName level answer ∈ calls
  outcome : ∀ o, result = .ok o ↔ ∃ s d level results,
    [.create s d (.ok o.jobName), .wait s o.jobName level (.ok results)] <:+ calls ∧
      o.jobType = d.jobType ∧ o.results = results ∧
        recommendationsOf results = .ok o.recommendations ∧ o.completedAt = timing.completedAt

namespace KeepsProtocol

variable {m m' : Model σ φ} {request : JobRequest} {settings : Settings} {timing : Timing}
  {calls : List (Call σ φ)} {session : Option σ} {result : Except Failure JobOutcome}
  {f : φ} {s : σ} {d : JobDocument} {jobName : String} {complaint : Complaint}

/-- no session is reached, so none is asked for anything -/
theorem of_unreached (hd : ∀ d s, request.document settings m = .ok d → session ≠ some s)
    (hr : ∀ o, result ≠ .ok o) (hl : calls.length ≤ 1)
    (hc : ∀ call ∈ calls, ∃ f answer, call = .build f answer) :
    KeepsProtocol m request settings timing calls session result := by
  have hcreate : ∀ s d answer, .create s d answer ∉ calls := by
    intro s d answer h
    obtain ⟨f, built, h⟩ := hc _ h
    cases h
  have hwait : ∀ s jobName level answer, .wait s jobName level answer ∉ calls := by
    intro s jobName level answer h
    obtain ⟨f, built, h⟩ := hc _ h
    cases h
  have hlast : calls.dropLast = [] := by
    apply List.eq_nil_of_length_eq_zero
    rw [List.length_dropLast]
    omega
  exact {
    creates_le := Nat.le_trans List.countP_le_length hl
    waits_le := Nat.le_trans List.countP_le_length hl
    document := fun s d answer h => absurd h (hcreate s d answer)
    level := fun s jobName level answer h => absurd h (hwait s jobName level answer)
    created := fun s jobName level answer h => absurd h (hwait s jobName level answer)
    stops := by simp [hlast]
    creates := fun d s h hs => absurd hs (hd d s h)
    waits := fun s d jobName h => absurd h (hcreate s d _)
    outcome := by
      intro o
      refine ⟨fun h => absurd h (hr o), ?_⟩
      rintro ⟨s, d, level, results, h, -⟩
      exact absurd (h.subset List.mem_cons_self) (hcreate s d (.ok o.jobName)) }

theorem of_refused (hd : request.document settings m = .ok d) :
    KeepsProtocol m request settings timing ([.create s d (.error complaint)] : List (Call σ φ))
      (some s) (.error (.session complaint)) where
  creates_le := by simp [isCreate]
  waits_le := by simp [isWait]
  document := by
    intro s' d' answer h
    cases List.mem_singleton.mp h
    exact hd
  level := by simp
  created := by simp
  stops := by simp
  creates := by
    intro d' s' hd' hs'
    cases hs'
    cases hd.symm.trans hd'
    exact ⟨_, List.mem_singleton_self _⟩
  waits := by simp
  outcome := by
    intro o
    refine ⟨nofun, ?_⟩
    rintro ⟨s', d', level, results, h, -⟩
    exact absurd h.length_le (by simp)

theorem of_awaited (hd : request.document settings m = .ok d)
    (answer : Except Complaint JobResults) :
    KeepsProtocol m request settings timing
      ([.create s d (.ok jobName), .wait s jobName (request.resolvedLogLevel settings) answer] :
        List (Call σ φ)) (some s) (awaited d jobName timing answer) where
  creates_le := by simp [isCreate, List.countP_cons]
  waits_le := by simp [isWait, List.countP_cons]
  document := by
    intro s' d' answer' h
    rcases List.mem_pair.mp h with h | h
    · cases h
      exact hd
    · cases h
  level := by
    intro s' jobName' level answer' h
    rcases List.mem_pair.mp h with h | h
    · cases h
    · cases h
      rfl
  created := by
    intro s' jobName' level answer' h
    rcases List.mem_pair.mp h with h | h
    · cases h
    · cases h
      exact ⟨d, List.suffix_rfl⟩
  stops := by
    intro c h
    cases List.mem_singleton.mp h
    rfl
  creates := by
    intro d' s' hd' hs'
    cases hs'
    cases hd.symm.trans hd'
    exact ⟨_, List.mem_cons_self⟩
  waits := by
    intro s' d' jobName' h
    rcases List.mem_pair.mp h with h | h
    · cases h
      exact ⟨_, answer, List.mem_pair.mpr (.inr rfl)⟩
    · cases h
  outcome := by
    intro o
    constructor
    · intro h
      cases answer with
      | error complaint => cases h
      | ok results =>
        obtain ⟨rfl, hrest⟩ := JobOutcome.ofResults_eq_ok_iff.mp h
        exact ⟨s, d, _, results, List.suffix_rfl, hrest⟩
    · rintro ⟨s', d', level, results, h, hrest⟩
      cases h.eq_of_length rfl
      exact JobOutcome.ofResults_eq_ok_iff.mpr ⟨rfl, hrest⟩

/-- a session that the factory built first changes nothing about what is asked of it -/
theorem of_built (h : KeepsProtocol m request settings timing calls session result)
    (hne : calls ≠ []) :
    KeepsProtocol m request settings timing (.build f (.ok s) :: calls) session result where
  creates_le := by simpa [isCreate] using h.creates_le
  waits_le := by simpa [isWait] using h.waits_le
  document := by simpa using h.document
  level := by simpa using h.level
  created := by
    intro s' jobName level answer hw
    obtain ⟨d', hd'⟩ := h.created s' jobName level answer (by simpa using hw)
    exact ⟨d', hd'.trans (List.suffix_cons _ _)⟩
  stops := by
    intro c hc
    rw [List.dropLast_cons_of_ne_nil hne] at hc
    rcases List.mem_cons.mp hc with rfl | hc
    · rfl
    · exact h.stops c hc
  creates := by simpa using h.creates
  waits := by simpa using h.waits
  outcome := by simpa [List.suffix_cons_iff] using h.outcome

end KeepsProtocol

variable {m : Model σ φ} {request : JobRequest} {settings : Settings} {timing : Timing}
  {step : Step σ φ JobOutcome}

theorem Ending.keepsProtocol (h : Ending m request settings timing step) :
    KeepsProtocol m request settings timing (callsOf step.trace) step.model.session
      step.result := by
  cases h with
  | rejected hd =>
    refine .of_unreached (fun d s h => ?_) nofun (Nat.zero_le 1) (by simp)
    cases hd.symm.trans h
  | unreached hd hm =>
    obtain ⟨rfl, hs, hc⟩ := hm.calls_of_error
    show KeepsProtocol _ request settings timing (callsOf (.note _ :: _)) _ _
    rw [callsOf_note]
    refine .of_unreached (fun d s _ h => ?_) nofun ?_ ?_
    · cases hs.symm.trans h
    · rcases hc with ⟨-, -, hc⟩ | ⟨f, complaint, -, -, hc⟩ <;> simp [hc]
    · rcases hc with ⟨-, -, hc⟩ | ⟨f, complaint, -, -, hc⟩ <;> simp [hc]
  | submitted hd hm hs =>
    obtain ⟨hs', hb⟩ := hm.calls_of_ok
    show KeepsProtocol m request settings timing (callsOf (_ ++ _)) _ _
    rw [callsOf_append, hs']
    rcases hs.calls with ⟨complaint, rfl, hc⟩ | ⟨jobName, answer, rfl, hc⟩
    · rw [hc]
      rcases hb with hb | ⟨f, hb⟩ <;> rw [hb]
      · exact .of_refused hd
      · exact (KeepsProtocol.of_refused hd).of_built (List.cons_ne_nil _ _)
    · rw [hc]
      rcases hb with hb | ⟨f, hb⟩ <;> rw [hb]
      · exact .of_awaited hd answer
      · exact (KeepsProtocol.of_awaited hd answer).of_built (List.cons_ne_nil _ _)

end

/-! ## Campaigns -/

section
variable {ι σ φ : Type} [DecidableEq ι] [DecidableEq σ] [DecidableEq φ]

/-- **Every job of a campaign keeps the protocol, whatever was done before and after it**, and the
history holds the calls of all steps with the answers of the service, and no others. -/
theorem Campaign.run_keepsProtocol (service : Service σ φ) (c : Campaign ι σ φ)
    (before after : List (ι × Action)) (i : ι) (request : JobRequest) (settings : Settings)
    (timing : Timing) :
    let reached := (run service c before).1
    let step := (reached.models i).rightSize service reached.calls request settings timing
    let actions := before ++ (i, .rightSize request settings timing) :: after
    KeepsProtocol (reached.models i) request settings timing (callsOf step.trace)
        step.model.session step.result ∧
      (run service c actions).2[before.length]? = some (step.map .outcome) ∧
      (run service c actions).1.calls =
        c.calls ++ (run service c actions).2.flatMap (fun step => callsOf step.trace) ∧
      Answered service c.calls
        ((run service c actions).2.flatMap fun step => callsOf step.trace) := by
  intro reached step actions
  have hend := (reached.models i).rightSize_ending service reached.calls request settings timing
  exact ⟨hend.keepsProtocol, run_step service c before after i _, run_calls service c actions,
    run_answered service c actions⟩

end

end RightSizing
