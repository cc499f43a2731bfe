import RightSizing.Proofs.Job.Validation
import RightSizing.Proofs.Session.Answers
import RightSizing.Proofs.Session.Protocol

/-!
# What becomes of a complaint

Three calls of a job can fail: to build a session, to create the job and to wait for it.  `Raises`
says by the answers of the service alone when one of them does.  The job then returns the complaint
as it is, with every text in it; and no job returns a complaint in another way.

* `Complaint.unwinds_iff`        the texts of a complaint are met on the way down its causes
* `Model.rightSize_raises_iff`   which complaint is returned, by the answers of the service
* `Ending.complains_iff`         it is that of the last call
* `Model.rightSize_complaint`    all of it
-/

namespace RightSizing

namespace Complaint

theorem texts_foldl (c : Complaint) (contexts : List String) :
    (contexts.foldl (fun inner text => context text inner) c).texts =
      contexts.reverse ++ c.texts := by
  induction contexts generalizing c with
  | nil => rfl
  | cons text contexts ih =>
    rw [List.foldl_cons, ih, texts_context, List.reverse_cons, List.append_assoc]
    rfl

theorem texts_wrap (rootText : String) (contexts : List String) :
    (wrap rootText contexts).texts = (rootText :: contexts).reverse := by
  rw [wrap, texts_foldl, List.reverse_cons]
  rfl

/-- the texts met by going from cause to cause until there is none -/
inductive Unwinds : Option Complaint → List String → Prop
  | ended : Unwinds none []
  | behind {c : Complaint} {texts : List String} (h : Unwinds c.cause? texts) :
      Unwinds (some c) (c.message :: texts)

theorem unwinds_texts (c : Complaint) : Unwinds (some c) c.texts := by
  induction c with
  | root text => exact .behind .ended
  | context text cause ih => exact @Unwinds.behind (context text cause) _ ih

theorem unwinds_iff {c : Complaint} {texts : List String} :
    Unwinds (some c) texts ↔ texts = c.texts := by
  refine ⟨fun h => ?_, fun h => h ▸ c.unwinds_texts⟩
  induction c generalizing texts with
  | root text =>
    cases h with
    | behind h =>
      cases h
      rfl
  | context text cause ih =>
    cases h with
    | behind h => rw [ih h, texts_context, message]

end Complaint

/-- a failure from outside, with the first text as its own and the others behind it -/
structure Failure.Shows (failure : Failure) (texts : List String) : Prop where
  message : texts.head? = some failure.message
  cause : failure.cause?.map Complaint.message = texts[1]?
  sources : ∀ behind, Complaint.Unwinds failure.cause? behind ↔ behind = texts.tail
  usage : failure.isUsage = false

theorem Complaint.session_shows (complaint : Complaint) :
    (Failure.session complaint).Shows complaint.texts := by
  cases complaint with
  | root text =>
    refine ⟨rfl, rfl, fun behind => ?_, rfl⟩
    constructor
    · rintro ⟨⟩
      rfl
    · rintro rfl
      exact .ended
  | context text cause =>
    refine ⟨rfl, ?_, fun behind => Complaint.unwinds_iff, rfl⟩
    cases cause <;> rfl

section
variable {σ φ : Type}

/-! ## The call that failed -/

/-- the party gave a complaint, and not what it was asked for -/
def Call.FailsWith (complaint : Complaint) : Call σ φ → Prop
  | .build _ answer => answer = .error complaint
  | .create _ _ answer => answer = .error complaint
  | .wait _ _ _ answer => answer = .error complaint

theorem Call.FailsWith.not_succeeded {complaint : Complaint} {call : Call σ φ}
    (h : call.FailsWith complaint) : call.succeeded ≠ true := by
  cases call <;> cases h <;> exact Bool.false_ne_true

variable {m : Model σ φ} {request : JobRequest} {settings : Settings} {timing : Timing}
  {step : Step σ φ JobOutcome} {d : JobDocument} {complaint : Complaint}

/-- the last of some calls failed -/
def EndsWith (complaint : Complaint) (calls : List (Call σ φ)) : Prop :=
  ∃ call, calls.getLast? = some call ∧ call.FailsWith complaint

theorem not_endsWith_nil : ¬ EndsWith complaint ([] : List (Call σ φ)) := by
  rintro ⟨call, hc, -⟩
  cases hc

theorem endsWith_append_singleton (calls : List (Call σ φ)) (call : Call σ φ) :
    EndsWith complaint (calls ++ [call]) ↔ call.FailsWith complaint := by
  unfold EndsWith
  rw [List.getLast?_concat]
  simp only [Option.some.injEq, exists_eq_left']

/-- a request is rejected for a fault of its own -/
theorem JobRequest.document_ne_session :
    request.document settings m ≠ .error (.session complaint) := by
  intro h
  rcases document_eq_error_iff.mp h with ⟨h, -⟩ | ⟨h, -⟩ <;> cases h

/-- a description that cannot be read is not laid at the door of the session -/
theorem JobOutcome.ofResults_ne_session {jobName : String} {jobType : JobType}
    {results : JobResults} {completedAt : Int} :
    ofResults jobName jobType results completedAt ≠ .error (.session complaint) := by
  intro h
  obtain ⟨error, hmalformed⟩ := malformed_of_ofResults h
  cases hmalformed

/-- a failure of the service is its complaint, and nothing is added or lost -/
theorem session_eq_iff {α β : Type} {c : Complaint} :
    (.error (.session c) : Except Failure α) = .error (.session complaint) ↔
      (.error c : Except Complaint β) = .error complaint := by
  simp

theorem awaited_eq_session_iff {jobName : String} {answer : Except Complaint JobResults} :
    awaited d jobName timing answer = .error (.session complaint) ↔ answer = .error complaint := by
  cases answer with
  | error c => exact session_eq_iff
  | ok results => simp [awaited, JobOutcome.ofResults_ne_session]

theorem Submission.complains_iff {s : σ} {level : LogLevel} {rest : List (Effect σ φ)}
    {result : Except Failure JobOutcome} (h : Submission d s level timing (result, rest))
    (calls : List (Call σ φ)) :
    result = .error (.session complaint) ↔ EndsWith complaint (calls ++ callsOf rest) := by
  rcases h.calls with ⟨c, rfl, hc⟩ | ⟨jobName, answer, rfl, hc⟩
  · rw [hc, endsWith_append_singleton]
    exact session_eq_iff
  · rw [hc, List.append_cons, endsWith_append_singleton, awaited_eq_session_iff, Call.FailsWith]

theorem Ending.complains_iff (h : Ending m request settings timing step) (complaint : Complaint) :
    step.result = .error (.session complaint) ↔ EndsWith complaint (callsOf step.trace) := by
  cases h with
  | rejected hd =>
    refine iff_of_false ?_ not_endsWith_nil
    rintro ⟨⟩
    exact JobRequest.document_ne_session hd
  | unreached hd hm =>
    show _ ↔ EndsWith complaint (callsOf (.note _ :: _))
    rw [callsOf_note]
    obtain ⟨-, -, ⟨rfl, -, hc⟩ | ⟨f, c, rfl, -, hc⟩⟩ := hm.calls_of_error
    · rw [hc]
      exact iff_of_false nofun not_endsWith_nil
    · rw [hc]
      exact session_eq_iff.trans (endsWith_append_singleton [] (.build f (.error c))).symm
  | submitted hd hm hs =>
    show _ ↔ EndsWith complaint (callsOf (_ ++ _))
    rw [callsOf_append]
    exact hs.complains_iff _

/-- nothing is done after a call that failed -/
theorem Ending.complains_of_mem (h : Ending m request settings timing step) {call : Call σ φ}
    (hc : call ∈ callsOf step.trace) (hf : call.FailsWith complaint) :
    step.result = .error (.session complaint) := by
  refine (h.complains_iff complaint).mpr ?_
  obtain ⟨before, last, hlast⟩ :=
    (List.eq_nil_or_concat' (callsOf step.trace)).resolve_left (List.ne_nil_of_mem hc)
  have hstops := h.keepsProtocol.stops
  rw [hlast] at hc hstops ⊢
  rw [List.dropLast_concat] at hstops
  rcases List.mem_append.mp hc with hc | hc
  · exact absurd (hstops call hc) hf.not_succeeded
  · cases List.mem_singleton.mp hc
    exact (endsWith_append_singleton before _).mpr hf

/-! ## What the service answered -/

variable [DecidableEq σ] [DecidableEq φ]

/-- the session that a model is given, by the answer of its factory where it has none -/
inductive Reaches (service : Service σ φ) (past : List (Call σ φ)) (m : Model σ φ) (s : σ) : Prop
  | attached (hs : m.session = some s)
  | built {f : φ} (hs : m.session = none) (hf : m.factory = some f)
      (hb : service.build f (callsTo (.factory f) past) = .ok s)

/-- one of the calls that a job makes fails -/
inductive Raises (service : Service σ φ) (past : List (Call σ φ)) (m : Model σ φ)
    (request : JobRequest) (settings : Settings) (complaint : Complaint) : Prop
  | build {d : JobDocument} {f : φ} (hd : request.document settings m = .ok d)
      (hs : m.session = none) (hf : m.factory = some f)
      (hb : service.build f (callsTo (.factory f) past) = .error complaint)
  | create {d : JobDocument} {s : σ} (hd : request.document settings m = .ok d)
      (hs : Reaches service past m s)
      (hc : service.create s (callsTo (.session s) past) d = .error complaint)
  | wait {d : JobDocument} {s : σ} {jobName : String} (hd : request.document settings m = .ok d)
      (hs : Reaches service past m s)
      (hc : service.create s (callsTo (.session s) past) d = .ok jobName)
      (hw : service.wait s (callsTo (.session s) past ++ [.create s d (.ok jobName)]) jobName
        (request.resolvedLogLevel settings) = .error complaint)

variable {service : Service σ φ} {past : List (Call σ φ)}

theorem Model.ensureSession_eq_ok_iff {s : σ} :
    (m.ensureSession service past).result = .ok s ↔ Reaches service past m s := by
  constructor
  · intro h
    unfold ensureSession at h
    split at h
    · next hs =>
      cases h
      exact .attached hs
    · cases h
    · next hs hf =>
      dsimp only at h
      split at h
      · next hb =>
        cases h
        exact .built hs hf hb
      · cases h
  · rintro (hs | ⟨hs, hf, hb⟩)
    · simp only [ensureSession, hs]
    · simp only [ensureSession, hs, hf, hb]

theorem Model.ensureSession_eq_session_iff :
    (m.ensureSession service past).result = .error (.session complaint) ↔
      m.session = none ∧ ∃ f, m.factory = some f ∧
        service.build f (callsTo (.factory f) past) = .error complaint := by
  constructor
  · intro h
    unfold ensureSession at h
    split at h
    · cases h
    · cases h
    · next f hs hf =>
      dsimp only at h
      split at h
      · cases h
      · next hb =>
        cases h
        exact ⟨hs, f, hf, hb⟩
  · rintro ⟨hs, f, hf, hb⟩
    simp only [ensureSession, hs, hf, hb]

/-- a session hears nothing of its being built -/
theorem Model.callsTo_ensureSession (s : σ) :
    callsTo (.session s) (past ++ callsOf (m.ensureSession service past).trace) =
      callsTo (.session s) past := by
  rw [callsTo_append, List.append_right_eq_self]
  have h := m.ensureSession_reaching service past
  generalize m.ensureSession service past = reached at h
  cases h <;> rfl

theorem submitJob_eq_session_iff {s : σ} {level : LogLevel} :
    (submitJob service past s d level timing).1 = .error (.session complaint) ↔
      service.create s (callsTo (.session s) past) d = .error complaint ∨
        ∃ jobName, service.create s (callsTo (.session s) past) d = .ok jobName ∧
          service.wait s (callsTo (.session s) past ++ [.create s d (.ok jobName)]) jobName level =
            .error complaint := by
  unfold submitJob
  cases service.create s (callsTo (.session s) past) d with
  | error c => simp
  | ok jobName =>
    have hself : callsTo (.session s) (past ++ [.create s d (.ok jobName)]) =
        callsTo (.session s) past ++ [.create s d (.ok jobName)] :=
      callsTo_concat past (.create s d (.ok jobName))
    dsimp only [awaitJob]
    rw [hself]
    simp only [reduceCtorEq, false_or, Except.ok.injEq, exists_eq_left']
    cases service.wait s (callsTo (.session s) past ++ [.create s d (.ok jobName)]) jobName
      level with
    | error c => simp
    | ok results =>
      refine iff_of_false ?_ nofun
      dsimp only
      split
      · next failure hr =>
        intro h
        exact JobOutcome.ofResults_ne_session (hr.trans h)
      · nofun

/-- a complaint is raised on the way to the session, or behind it -/
theorem raises_iff (hd : request.document settings m = .ok d) :
    Raises service past m request settings complaint ↔
      (m.ensureSession service past).result = .error (.session complaint) ∨
        ∃ s, (m.ensureSession service past).result = .ok s ∧
          (service.create s (callsTo (.session s) past) d = .error complaint ∨
            ∃ jobName, service.create s (callsTo (.session s) past) d = .ok jobName ∧
              service.wait s (callsTo (.session s) past ++ [.create s d (.ok jobName)]) jobName
                (request.resolvedLogLevel settings) = .error complaint) := by
  simp only [Model.ensureSession_eq_session_iff, Model.ensureSession_eq_ok_iff]
  constructor
  · rintro (⟨-, hs, hf, hb⟩ | ⟨hd', hs, hc⟩ | ⟨hd', hs, hc, hw⟩)
    · exact .inl ⟨hs, _, hf, hb⟩
    · cases hd.symm.trans hd'
      exact .inr ⟨_, hs, .inl hc⟩
    · cases hd.symm.trans hd'
      exact .inr ⟨_, hs, .inr ⟨_, hc, hw⟩⟩
  · rintro (⟨hs, f, hf, hb⟩ | ⟨s, hs, hc | ⟨jobName, hc, hw⟩⟩)
    · exact .build hd hs hf hb
    · exact .create hd hs hc
    · exact .wait hd hs hc hw

theorem Raises.document (h : Raises service past m request settings complaint) :
    ∃ d, request.document settings m = .ok d := by
  cases h <;> exact ⟨_, ‹_›⟩

theorem Model.rightSize_raises_iff :
    (m.rightSize service past request settings timing).result = .error (.session complaint) ↔
      Raises service past m request settings complaint := by
  unfold rightSize
  split
  · next failure hd =>
    refine iff_of_false ?_ fun h => ?_
    · rintro ⟨⟩
      exact JobRequest.document_ne_session hd
    · obtain ⟨d, hd'⟩ := h.document
      cases hd.symm.trans hd'
  · next d hd =>
    rw [raises_iff hd]
    dsimp only
    split
    · next failure hr => simp [hr]
    · next s hr =>
      dsimp only
      rw [submitJob_eq_session_iff, callsTo_ensureSession]
      simp [hr]

/-- **A complaint reaches the caller untouched, and a complaint that reaches the caller was the last
thing that the service said.**  Whatever the factory or the session raises, the job returns it with
all its texts, the outermost as the text of the failure and the others behind it in order; and it
returns no complaint but that of the last call it made. -/
theorem Model.rightSize_complaint (service : Service σ φ) (past : List (Call σ φ)) (m : Model σ φ)
    (request : JobRequest) (settings : Settings) (timing : Timing) :
    let step := m.rightSize service past request settings timing
    let calls := callsOf step.trace
    Answered service past calls ∧
      (∀ rootText contexts,
        let complaint := Complaint.wrap rootText contexts
        Raises service past m request settings complaint ∨
            (∃ call ∈ calls, call.FailsWith complaint) →
          step.result = .error (.session complaint) ∧
            (Failure.session complaint).Shows (rootText :: contexts).reverse) ∧
      ∀ complaint, step.result = .error (.session complaint) →
        Raises service past m request settings complaint ∧ EndsWith complaint calls := by
  intro step calls
  have hending : Ending m request settings timing step :=
    m.rightSize_ending service past request settings timing
  refine ⟨rightSize_answered service past m request settings timing, ?_, fun complaint h => ?_⟩
  · intro rootText contexts complaint h
    refine ⟨?_, Complaint.texts_wrap rootText contexts ▸ complaint.session_shows⟩
    rcases h with h | ⟨call, hc, hf⟩
    · exact rightSize_raises_iff.mpr h
    · exact hending.complains_of_mem hc hf
  · exact ⟨rightSize_raises_iff.mp h, (hending.complains_iff complaint).mp h⟩

end

/-- a job that breaks off while it is waited for, with a complaint of three texts -/
theorem rightSize_complaint_of_wait :
    let complaint := Complaint.wrap "timed out" ["describing the job", "waiting for the job"]
    let service := Service.scripted [("s", ⟨[.named "job"], [.error complaint]⟩)] []
    let m : Model String Nat := (Model.ofPackage "role" "package").withSession "s"
    let timing : Timing := ⟨.ofInt 1, 0⟩
    (m.rightSize service [] .empty .standard timing).result = .error (.session complaint) ∧
      (Failure.session complaint).Shows
        ["waiting for the job", "describing the job", "timed out"] := by
  intro complaint service m timing
  obtain ⟨-, hraised, -⟩ := m.rightSize_complaint service [] .empty .standard timing
  exact hraised "timed out" _ (.inl (.wait rfl (.attached rfl) rfl rfl))

end RightSizing
