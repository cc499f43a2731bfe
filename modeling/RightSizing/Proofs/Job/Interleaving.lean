import Mathlib.Data.List.Induction
import Mathlib.Data.Set.Pairwise.Basic
import RightSizing.Proofs.Job.Steps
import RightSizing.Proofs.Session.Footprint

/-!
# Interleaved jobs

Models that share no session and no factory do not disturb each other.  `Campaign.MayUse` says which
parties may ever be called for a model, and models are `Apart` if they have none of them in common.
Then a run is the same, seen from each of its models, as the run of that model's own actions
(`Campaign.RunsAlone`): its steps, its state and the calls that its parties hear.

So two runs agree as soon as each model is given the same actions in the same order
(`Campaign.run_rearranged`).  What their models share is the telemetry, and this is a matter of sums:
the steps of the runs are the same up to their order.

* `itemsOf`, `Interleaves`      parts of a marked list, and two lists in one
* `Campaign.apart_of_mayReach`  when models are apart
* `Campaign.run_runsAlone`      what a run is to each of its models
* `Campaign.run_interleaved`    two lists of actions, one after the other or interleaved
-/

namespace RightSizing

/-! ## Marked lists -/

section
variable {ι α : Type} [DecidableEq ι]

/-- what is marked with `i` in a list, in order -/
def itemsOf (i : ι) (items : List (ι × α)) : List α := (items.filter (·.1 = i)).map (·.2)

theorem itemsOf_nil (i : ι) : itemsOf i ([] : List (ι × α)) = [] := rfl

theorem itemsOf_append (i : ι) (items more : List (ι × α)) :
    itemsOf i (items ++ more) = itemsOf i items ++ itemsOf i more := by
  unfold itemsOf
  rw [List.filter_append, List.map_append]

theorem itemsOf_cons_self (i : ι) (a : α) (items : List (ι × α)) :
    itemsOf i ((i, a) :: items) = a :: itemsOf i items := by
  unfold itemsOf
  rw [List.filter_cons_of_pos (by simp), List.map_cons]

theorem itemsOf_cons_of_ne {i j : ι} (h : j ≠ i) (a : α) (items : List (ι × α)) :
    itemsOf i ((j, a) :: items) = itemsOf i items := by
  unfold itemsOf
  rw [List.filter_cons_of_neg (by simpa using h)]

theorem itemsOf_mark_of_ne {i j : ι} (h : j ≠ i) (others : List α) :
    itemsOf i (others.map (j, ·)) = [] := by
  induction others with
  | nil => rfl
  | cons a others ih => rw [List.map_cons, itemsOf_cons_of_ne h, ih]

theorem count_itemsOf [DecidableEq α] (i : ι) (a : α) (items : List (ι × α)) :
    (itemsOf i items).count a = items.count (i, a) := by
  induction items with
  | nil => rfl
  | cons item items ih =>
    obtain ⟨j, b⟩ := item
    by_cases h : j = i
    · subst h
      rw [itemsOf_cons_self, List.count_cons, List.count_cons, ih]
      simp
    · rw [itemsOf_cons_of_ne h, List.count_cons, ih]
      simp [h]

/-- lists with the same items for every mark differ in their order at most -/
theorem perm_of_itemsOf_eq {items more : List (ι × α)}
    (h : ∀ i, itemsOf i items = itemsOf i more) : items.Perm more := by
  classical
  refine List.perm_iff_count.mpr ?_
  rintro ⟨i, a⟩
  rw [← count_itemsOf, ← count_itemsOf, h i]

end

theorem moved_perm {notes more : List Note} (h : notes.Perm more) (counter : Counter) :
    moved counter notes = moved counter more := by
  induction h with
  | nil => rfl
  | cons note _ ih => rw [moved_cons, moved_cons, ih]
  | swap note note' notes =>
    rw [moved_cons, moved_cons, moved_cons, moved_cons, ← UInt64.add_assoc, ← UInt64.add_assoc,
      UInt64.add_comm (note'.move counter)]
  | trans _ _ ih ih' => exact ih.trans ih'

/-! ## Two lists in one -/

/-- two lists put into one that keeps the order of each, with a mark of where each item is from -/
inductive Interleaves {ι α : Type} (i j : ι) : List α → List α → List (ι × α) → Prop
  | nil : Interleaves i j [] [] []
  | first {a : α} {first second : List α} {items : List (ι × α)}
      (h : Interleaves i j first second items) :
      Interleaves i j (a :: first) second ((i, a) :: items)
  | second {a : α} {first second : List α} {items : List (ι × α)}
      (h : Interleaves i j first second items) :
      Interleaves i j first (a :: second) ((j, a) :: items)

namespace Interleaves

variable {ι α : Type} {i j : ι} {first second : List α} {items : List (ι × α)}

/-- one list after the other -/
theorem row (i j : ι) (first second : List α) :
    Interleaves i j first second (first.map (i, ·) ++ second.map (j, ·)) := by
  induction first with
  | nil =>
    induction second with
    | nil => exact .nil
    | cons a second ih => exact .second ih
  | cons a first ih => exact .first ih

theorem mem_pair (h : Interleaves i j first second items) :
    ∀ item ∈ items, item.1 ∈ ({i, j} : Set ι) := by
  induction h with
  | nil => exact List.forall_mem_nil _
  | first _ ih => exact List.forall_mem_cons.mpr ⟨.inl rfl, ih⟩
  | second _ ih => exact List.forall_mem_cons.mpr ⟨.inr rfl, ih⟩

theorem itemsOf_eq [DecidableEq ι] (h : Interleaves i j first second items) (hij : i ≠ j) (k : ι) :
    itemsOf k items = itemsOf k (first.map (i, ·)) ++ itemsOf k (second.map (j, ·)) := by
  induction h with
  | nil => rfl
  | first _ ih =>
    rw [List.map_cons]
    by_cases hk : i = k
    · subst hk
      rw [itemsOf_cons_self, itemsOf_cons_self, ih, List.cons_append]
    · rw [itemsOf_cons_of_ne hk, itemsOf_cons_of_ne hk, ih]
  | second _ ih =>
    rw [List.map_cons]
    by_cases hk : j = k
    · subst hk
      rw [itemsOf_cons_self, itemsOf_cons_self, ih, itemsOf_mark_of_ne hij]
      rfl
    · rw [itemsOf_cons_of_ne hk, itemsOf_cons_of_ne hk, ih]

end Interleaves

/-! ## What a model may come to use -/

section
variable {σ φ : Type} {service : Service σ φ} {m m' : Model σ φ} {s : σ}

/-- the session of a model or, as long as it has none, whatever its factory may build -/
def Model.MayReach (service : Service σ φ) (m : Model σ φ) (s : σ) : Prop :=
  m.session = some s ∨
    m.session = none ∧ ∃ f past, m.factory = some f ∧ service.build f past = .ok s

variable [DecidableEq σ] [DecidableEq φ]

/-- nothing new comes into reach -/
theorem LifeCycle.mayReach {past calls : List (Call σ φ)} (h : LifeCycle m calls m')
    (ha : Answered service past calls) (hs : m'.MayReach service s) : m.MayReach service s := by
  cases h with
  | kept _ _ => exact hs
  | closed _ _ => exact hs
  | opened hnone hf hb hc =>
    obtain ⟨-, hanswer, -⟩ := (Answered_append service past _ _).mp ha
    rcases hs with hs | ⟨hs, -⟩
    · cases hs
      exact .inr ⟨hnone, _, _, hf, hanswer.symm⟩
    · cases hs

end

namespace Campaign

variable {ι σ φ : Type} [DecidableEq ι] [DecidableEq σ] [DecidableEq φ]

theorem run_mayReach {service : Service σ φ} {c : Campaign ι σ φ} {i : ι} {s : σ}
    {actions : List (ι × Action)} :
    ((run service c actions).1.models i).MayReach service s → (c.models i).MayReach service s := by
  refine run_models (r := fun m m' => m'.MayReach service s → m.MayReach service s)
    (fun _ => id) (fun _ _ _ hm hm' hs => hm (hm' hs)) ?_ c i actions
  intro past m a hs
  exact (m.act_lifeCycle service past a).mayReach (act_answered service past m a) hs

/-- some actions on one model -/
def alone (service : Service σ φ) (c : Campaign ι σ φ) (i : ι) (own : List Action) :
    Campaign ι σ φ × List (Step σ φ (Reply σ)) :=
  run service c (own.map (i, ·))

/-- the parties that a model comes to use if some actions are done to it and to no other model -/
def MayUse (service : Service σ φ) (c : Campaign ι σ φ) (i : ι) (party : Party σ φ) : Prop :=
  ∃ own, ((alone service c i own).1.models i).Uses party

/-- models whose sessions and factories are distinct, now and ever -/
def Apart (service : Service σ φ) (c : Campaign ι σ φ) (i j : ι) : Prop :=
  ∀ party, MayUse service c i party → ¬ MayUse service c j party

/-- sessions and factories are distinct if they are so in the beginning and the factories do not
build the same session -/
theorem apart_of_mayReach {service : Service σ φ} {c : Campaign ι σ φ} {i j : ι}
    (hf : ∀ f, (c.models i).factory = some f → (c.models j).factory ≠ some f)
    (hs : ∀ s, (c.models i).MayReach service s → ¬ (c.models j).MayReach service s) :
    Apart service c i j := by
  rintro party ⟨own, hi⟩ ⟨own', hj⟩
  cases party with
  | factory f =>
    have hsame := run_sameButSession service c i (own.map (i, ·))
    have hsame' := run_sameButSession service c j (own'.map (j, ·))
    exact hf f (hsame.factory.symm.trans hi) (hsame'.factory.symm.trans hj)
  | session s => exact hs s (run_mayReach (.inl hi)) (run_mayReach (.inl hj))

section
variable (service : Service σ φ) (c : Campaign ι σ φ)

/-! ## One more action -/

theorem run_concat (actions : List (ι × Action)) (i : ι) (a : Action) :
    run service c (actions ++ [(i, a)]) =
      ((act service (run service c actions).1 i a).1,
        (run service c actions).2 ++ [(act service (run service c actions).1 i a).2]) :=
  run_append service c actions [(i, a)]

theorem alone_concat (i : ι) (own : List Action) (a : Action) :
    alone service c i (own ++ [a]) =
      ((act service (alone service c i own).1 i a).1,
        (alone service c i own).2 ++ [(act service (alone service c i own).1 i a).2]) := by
  unfold alone
  rw [List.map_append, List.map_singleton, run_concat]

theorem length_run (actions : List (ι × Action)) :
    (run service c actions).2.length = actions.length := by
  induction actions generalizing c with
  | nil => rfl
  | cons action actions ih =>
    obtain ⟨i, a⟩ := action
    rw [run_cons, List.length_cons, List.length_cons, ih]

/-- the steps of a run, each with the model that it was for -/
def stepsOf (actions : List (ι × Action)) : List (ι × Step σ φ (Reply σ)) :=
  (actions.map (·.1)).zip (run service c actions).2

theorem map_snd_stepsOf (actions : List (ι × Action)) :
    (stepsOf service c actions).map (·.2) = (run service c actions).2 := by
  refine List.map_snd_zip ?_
  rw [length_run, List.length_map]

theorem stepsOf_concat (actions : List (ι × Action)) (i : ι) (a : Action) :
    stepsOf service c (actions ++ [(i, a)]) =
      stepsOf service c actions ++ [(i, (act service (run service c actions).1 i a).2)] := by
  unfold stepsOf
  rw [run_concat, List.map_append, List.zip_append]
  · rfl
  · rw [length_run, List.length_map]

end

/-! ## A run, seen from its models -/

/-- a run is to each model what the actions on this model alone would be, and nobody is called but
those that the models may use -/
structure RunsAlone (service : Service σ φ) (c : Campaign ι σ φ) (S : Set ι)
    (actions : List (ι × Action)) : Prop where
  model : ∀ i, (run service c actions).1.models i =
    (alone service c i (itemsOf i actions)).1.models i
  steps : ∀ i, itemsOf i (stepsOf service c actions) =
    (alone service c i (itemsOf i actions)).2
  calls : ∀ i ∈ S, ∀ party, MayUse service c i party →
    callsTo party (run service c actions).1.calls =
      callsTo party (alone service c i (itemsOf i actions)).1.calls
  others : ∀ party, (∀ i ∈ S, ¬ MayUse service c i party) →
    callsTo party (run service c actions).1.calls = callsTo party c.calls

section
variable {service : Service σ φ} {c : Campaign ι σ φ} {S : Set ι} {actions : List (ι × Action)}
  {j : ι}

/-- what an action on a model alone uses -/
theorem mayUse_of_uses {own : List Action} {a : Action} {party : Party σ φ}
    (h : (act service (alone service c j own).1 j a).2.model.Uses party) :
    MayUse service c j party := by
  refine ⟨own ++ [a], ?_⟩
  rw [alone_concat]
  show (setModel _ j _ j).Uses party
  rw [setModel_self]
  exact h

namespace RunsAlone

theorem nil : RunsAlone service c S [] where
  model _ := rfl
  steps _ := rfl
  calls _ _ _ _ := rfl
  others _ _ := rfl

/-- an action does what it would do to its model alone, since its parties have heard the same -/
theorem act_eq (h : RunsAlone service c S actions) (hj : j ∈ S) (a : Action) :
    (act service (run service c actions).1 j a).2 =
      (act service (alone service c j (itemsOf j actions)).1 j a).2 := by
  show ((run service c actions).1.models j).act service (run service c actions).1.calls a = _
  rw [h.model j]
  refine Model.act_congr fun party hp => ?_
  exact h.calls j hj party (mayUse_of_uses hp)

theorem concat (h : RunsAlone service c S actions) (hapart : S.Pairwise (Apart service c))
    (hj : j ∈ S) (a : Action) : RunsAlone service c S (actions ++ [(j, a)]) := by
  have hact := h.act_eq hj a
  have hcalled : ∀ call ∈ callsOf (act service (run service c actions).1 j a).2.trace,
      MayUse service c j call.party := by
    rw [hact]
    intro call hc
    exact mayUse_of_uses (Model.act_uses service _ _ a call hc)
  have hitems : itemsOf j (actions ++ [(j, a)]) = itemsOf j actions ++ [a] := by
    rw [itemsOf_append, itemsOf_cons_self, itemsOf_nil]
  have hitems' : ∀ i, i ≠ j → itemsOf i (actions ++ [(j, a)]) = itemsOf i actions := by
    intro i hi
    rw [itemsOf_append, itemsOf_cons_of_ne hi.symm, itemsOf_nil, List.append_nil]
  constructor
  case model =>
    intro i
    rw [run_concat]
    show setModel _ j (act service (run service c actions).1 j a).2.model i = _
    by_cases hi : i = j
    · rw [hi, hitems, alone_concat, setModel_self, hact]
      exact (setModel_self _ j _).symm
    · rw [hitems' i hi, setModel_of_ne _ _ hi]
      exact h.model i
  case steps =>
    intro i
    rw [stepsOf_concat, itemsOf_append, h.steps i]
    by_cases hi : i = j
    · rw [hi, hitems, alone_concat, itemsOf_cons_self, itemsOf_nil, hact]
    · rw [hitems' i hi, itemsOf_cons_of_ne (Ne.symm hi), itemsOf_nil, List.append_nil]
  case calls =>
    intro i hi party hp
    rw [run_concat]
    show callsTo party (_ ++ callsOf (act service (run service c actions).1 j a).2.trace) = _
    by_cases hij : i = j
    · subst hij
      rw [hitems, alone_concat, callsTo_append, h.calls i hi party hp, hact, ← callsTo_append]
      rfl
    · rw [hitems' i hij, callsTo_append_of_forall_ne, h.calls i hi party hp]
      intro call hc heq
      exact hapart hi hj hij party hp (heq ▸ hcalled call hc)
  case others =>
    intro party hp
    rw [run_concat]
    show callsTo party (_ ++ callsOf (act service (run service c actions).1 j a).2.trace) = _
    rw [callsTo_append_of_forall_ne, h.others party hp]
    intro call hc heq
    exact hp j hj (heq ▸ hcalled call hc)

end RunsAlone

theorem run_runsAlone (hapart : S.Pairwise (Apart service c))
    (hS : ∀ action ∈ actions, action.1 ∈ S) : RunsAlone service c S actions := by
  induction actions using List.reverseRecOn with
  | nil => exact .nil
  | append_singleton actions action ih =>
    obtain ⟨j, a⟩ := action
    have hprefix := ih fun action h => hS action (List.mem_append_left _ h)
    exact hprefix.concat hapart (hS (j, a) List.mem_concat_self) a

/-! ## Two runs with the same actions for each model -/

theorem run_rearranged {actions' : List (ι × Action)} (hapart : S.Pairwise (Apart service c))
    (hS : ∀ action ∈ actions, action.1 ∈ S) (hS' : ∀ action ∈ actions', action.1 ∈ S)
    (h : ∀ i, itemsOf i actions' = itemsOf i actions) :
    (∀ i, itemsOf i (stepsOf service c actions') = itemsOf i (stepsOf service c actions)) ∧
      (run service c actions').1.models = (run service c actions).1.models ∧
      ∀ party, callsTo party (run service c actions').1.calls =
        callsTo party (run service c actions).1.calls := by
  have hrun := run_runsAlone hapart hS
  have hrun' := run_runsAlone hapart hS'
  refine ⟨fun i => ?_, funext fun i => ?_, fun party => ?_⟩
  · rw [hrun'.steps i, hrun.steps i, h i]
  · rw [hrun'.model i, hrun.model i, h i]
  · by_cases hp : ∃ i ∈ S, MayUse service c i party
    · obtain ⟨i, hi, hp⟩ := hp
      rw [hrun'.calls i hi party hp, hrun.calls i hi party hp, h i]
    · have hnone : ∀ i ∈ S, ¬ MayUse service c i party := fun i hi hu => hp ⟨i, hi, hu⟩
      rw [hrun'.others party hnone, hrun.others party hnone]

/-! ## Two models -/

/-- **Models with separate sessions do not disturb each other.**  However two lists of actions on two
models are interleaved, each action gives what it gives when the lists are run one after the other,
with the same calls and notes; both models end in the same state and every session and factory hears
the same calls.  All counters are moved by the same amounts, and the same waits are observed, in some
order. -/
theorem run_interleaved {i j : ι} (hij : i ≠ j) (hapart : Apart service c i j)
    {first second : List Action} {actions : List (ι × Action)}
    (h : Interleaves i j first second actions) :
    let row := first.map (i, ·) ++ second.map (j, ·)
    let notes := fun actions => notesOf (traceOf (run service c actions).2)
    (∀ k, itemsOf k (stepsOf service c actions) = itemsOf k (stepsOf service c row)) ∧
      (run service c actions).1.models = (run service c row).1.models ∧
      (∀ party, callsTo party (run service c actions).1.calls =
        callsTo party (run service c row).1.calls) ∧
      (∀ counter, moved counter (notes actions) = moved counter (notes row)) ∧
      (waitsOf (notes actions)).Perm (waitsOf (notes row)) := by
  intro row notes
  have hrow : Interleaves i j first second row := .row i j first second
  have hpair : ({i, j} : Set ι).Pairwise (Apart service c) :=
    Set.pairwise_pair.mpr fun _ => ⟨hapart, fun party hj hi => hapart party hi hj⟩
  have hitems : ∀ k, itemsOf k actions = itemsOf k row := by
    intro k
    rw [h.itemsOf_eq hij, hrow.itemsOf_eq hij]
  obtain ⟨hsteps, hmodels, hcalls⟩ := run_rearranged hpair hrow.mem_pair h.mem_pair hitems
  have hperm : (run service c actions).2.Perm (run service c row).2 := by
    rw [← map_snd_stepsOf, ← map_snd_stepsOf service c row]
    exact (perm_of_itemsOf_eq hsteps).map _
  have hnotes : (notes actions).Perm (notes row) := (hperm.flatMap_right _).filterMap _
  exact ⟨hsteps, hmodels, hcalls, moved_perm hnotes, hnotes.filterMap _⟩

end

/-! A model with a session, and one whose factory fails once before it builds another session. -/

def secondTime : List (Except Complaint String) := [.error (.root "no credentials"), .ok "right"]

def twoParties : Service String Nat :=
  .scripted [("left", ⟨[.named "a"], [.ok [], .error (.root "timeout")]⟩),
      ("right", ⟨[.named "b"], [.ok []]⟩)] [secondTime]

def twoModels : Campaign Bool String Nat where
  models
    | true => (Model.ofPackage "role" "first").withSession "left"
    | false => (Model.ofPackage "role" "second").withFactory 0
  calls := []

theorem twoModels_apart : Apart twoParties twoModels true false := by
  refine apart_of_mayReach nofun fun s hs hs' => ?_
  have hleft : s = "left" := by
    rcases hs with hs | ⟨hs, -⟩
    · exact (Option.some.inj hs).symm
    · cases hs
  obtain hs' | ⟨-, f, past, hf, hbuilt⟩ := hs'
  · cases hs'
  · cases hf
    cases past with
    | nil => cases hbuilt
    | cons call past =>
      have hright : twoParties.build 0 (call :: past) = .ok "right" := by
        show (secondTime[min (past.length + 1) 1]?).getD _ = _
        rw [Nat.min_eq_right (Nat.le_add_left 1 past.length)]
        rfl
      rw [hright, hleft] at hbuilt
      exact absurd (Except.ok.inj hbuilt) (by decide)

theorem run_interleaved_of_two :
    let job := Action.rightSize .empty .standard ⟨.ofInt 1, 0⟩
    let mixed := [(false, job), (true, job), (true, job), (false, job)]
    let row := [(true, job), (true, job), (false, job), (false, job)]
    let notes := fun actions => notesOf (traceOf (run twoParties twoModels actions).2)
    (run twoParties twoModels mixed).1.models = (run twoParties twoModels row).1.models ∧
      ((run twoParties twoModels row).1.models false).session = some "right" ∧
      (∀ counter, moved counter (notes mixed) = moved counter (notes row)) ∧
      moved .failures (notes row) = 1 := by
  intro job mixed row notes
  have hmixed : Interleaves true false [job, job] [job, job] mixed :=
    .second (.first (.first (.second .nil)))
  obtain ⟨-, hmodels, -, hmoved, -⟩ := run_interleaved (show true ≠ false by decide) twoModels_apart hmixed
  exact ⟨hmodels, by decide +kernel, hmoved, by decide +kernel⟩

end Campaign

end RightSizing
