import Mathlib.Data.List.Forall2
import RightSizing.Proofs.Job.Ending
import RightSizing.Proofs.Recommendation.Grammar

/-!
# Reading the ranked list

A description has no ranked list, or null in its place, or an array that is read item by item and as
a whole or not at all.

* `Codec.readAll_eq_ok_iff`           all items of a list, in order
* `Codec.readAll_eq_error_iff`        or the fault of the first item that cannot be read
* `recommendationsOf_eq_ok_iff`       the recommendations of a description
* `recommendationsOf_eq_iff`          every answer to a description, also when it is at fault
* `JobOutcome.top?_eq_none_iff`, `JobOutcome.top?_eq_some_iff`   the best of them, if there is one
* `JobOutcome.extraction`             descriptions and the outcomes made of them
-/

namespace RightSizing

/-- a list is read when each of its items is -/
theorem Codec.readAll_eq_ok_iff {item : Value → Except DecodeError α} {xs : List Value}
    {as : List α} : readAll item xs = .ok as ↔ List.Forall₂ (fun x a => item x = .ok a) xs as := by
  induction xs generalizing as with
  | nil =>
    rw [readAll_nil, Except.ok.injEq, List.forall₂_nil_left_iff, eq_comm]
  | cons x xs ih =>
    rw [readAll_cons, List.forall₂_cons_left_iff]
    cases item x with
    | error e => exact iff_of_false nofun fun ⟨_, _, h, _⟩ => nomatch h
    | ok a =>
      show (readAll item xs).map (a :: ·) = .ok as ↔ _
      rw [map_eq_ok_iff]
      constructor
      · rintro ⟨rest, hrest, rfl⟩
        exact ⟨a, rest, rfl, ih.mp hrest, rfl⟩
      · rintro ⟨b, rest, hb, hrest, rfl⟩
        cases hb
        exact ⟨rest, ih.mpr hrest, rfl⟩

/-- a list is at fault when one of its items is, and then the first of these tells how -/
theorem Codec.readAll_eq_error_iff {item : Value → Except DecodeError α} {xs : List Value}
    {e : DecodeError} :
    readAll item xs = .error e ↔ ∃ front x behind, xs = front ++ x :: behind ∧
      (∀ y ∈ front, ∃ a, item y = .ok a) ∧ item x = .error e := by
  induction xs with
  | nil =>
    refine iff_of_false nofun ?_
    rintro ⟨front, x, behind, hsplit, -⟩
    exact List.append_ne_nil_of_right_ne_nil front (List.cons_ne_nil x behind) hsplit.symm
  | cons y ys ih =>
    rw [readAll_cons]
    cases hy : item y with
    | error e' =>
      show Except.error e' = .error e ↔ _
      rw [Except.error.injEq]
      constructor
      · rintro rfl
        exact ⟨[], y, ys, rfl, nofun, hy⟩
      · rintro ⟨front, x, behind, hsplit, hfront, hx⟩
        cases front with
        | nil =>
          cases hsplit
          exact Except.error.inj (hy.symm.trans hx)
        | cons z front =>
          -- the first item would have been read
          cases hsplit
          obtain ⟨a, ha⟩ := hfront y List.mem_cons_self
          cases hy.symm.trans ha
    | ok a =>
      show (readAll item ys).map (a :: ·) = .error e ↔ _
      rw [map_eq_error_iff, ih]
      constructor
      · rintro ⟨front, x, behind, rfl, hfront, hx⟩
        exact ⟨y :: front, x, behind, rfl, List.forall_mem_cons.mpr ⟨⟨a, hy⟩, hfront⟩, hx⟩
      · rintro ⟨front, x, behind, hsplit, hfront, hx⟩
        cases front with
        | nil =>
          cases hsplit
          cases hy.symm.trans hx
        | cons z front =>
          cases hsplit
          exact ⟨front, x, behind, rfl, (List.forall_mem_cons.mp hfront).2, hx⟩

/-- there is no list, or null in its place -/
def Unranked (results : JobResults) : Prop :=
  Value.find? results recommendationsName = none ∨
    Value.find? results recommendationsName = some .null

section
variable {results : JobResults}

theorem recommendationsOf_of_unranked (h : Unranked results) : recommendationsOf results = .ok [] := by
  unfold recommendationsOf
  rcases h with h | h <;> rw [h]

theorem recommendationsOf_of_ranked {ranked : Value}
    (h : Value.find? results recommendationsName = some ranked) (hne : ranked ≠ .null) :
    recommendationsOf results =
      ((Codec.list InferenceRecommendation.codec).read ranked).mapError .malformedResults := by
  unfold recommendationsOf
  rw [h]
  cases ranked with
  | null => exact absurd rfl hne
  | _ => rfl

/-- the recommendations are those of the array, in its order, and none is left out -/
theorem recommendationsOf_eq_ok_iff {recommendations : List InferenceRecommendation} :
    recommendationsOf results = .ok recommendations ↔
      Unranked results ∧ recommendations = [] ∨
        ∃ xs, Value.find? results recommendationsName = some (.array xs) ∧
          List.Forall₂ (fun x r => InferenceRecommendation.codec.read x = .ok r)
            xs recommendations := by
  by_cases hunranked : Unranked results
  · have hnone : ¬ ∃ xs, Value.find? results recommendationsName = some (.array xs) ∧
        List.Forall₂ (fun x r => InferenceRecommendation.codec.read x = .ok r)
          xs recommendations := by
      rintro ⟨xs, hxs, -⟩
      rcases hunranked with h | h <;> cases hxs.symm.trans h
    rw [recommendationsOf_of_unranked hunranked, Except.ok.injEq, eq_comm]
    exact ⟨fun h => .inl ⟨hunranked, h⟩, fun h => (h.resolve_right hnone).2⟩
  · cases hfind : Value.find? results recommendationsName with
    | none => exact absurd (.inl hfind) hunranked
    | some ranked =>
      have hne : ranked ≠ .null := by
        rintro rfl
        exact hunranked (.inr hfind)
      rw [recommendationsOf_of_ranked hfind hne, mapError_eq_ok_iff]
      simp only [hunranked, false_and, false_or, Option.some.injEq]
      cases ranked with
      | array xs =>
        show Codec.readAll _ xs = _ ↔ _
        rw [Codec.readAll_eq_ok_iff]
        exact ⟨fun h => ⟨xs, rfl, h⟩, fun ⟨ys, hys, h⟩ => Value.array.inj hys ▸ h⟩
      | _ => exact iff_of_false nofun fun ⟨_, h, _⟩ => nomatch h

/-- what a description comes to: its recommendations, or its fault -/
inductive Extraction (results : JobResults) : Except Failure (List InferenceRecommendation) → Prop
  /-- there is nothing to read -/
  | unranked (h : Unranked results) : Extraction results (.ok [])
  /-- every item is read, and stands where it stood -/
  | whole {xs : List Value} {recommendations : List InferenceRecommendation}
      (h : Value.find? results recommendationsName = some (.array xs))
      (hall : List.Forall₂ (fun x r => InferenceRecommendation.codec.read x = .ok r)
        xs recommendations) :
      Extraction results (.ok recommendations)
  /-- an item cannot be read, and it is the first -/
  | faulty {front behind : List Value} {x : Value} {e : DecodeError}
      (h : Value.find? results recommendationsName = some (.array (front ++ x :: behind)))
      (hfront : ∀ y ∈ front, ∃ r, InferenceRecommendation.codec.read y = .ok r)
      (hx : InferenceRecommendation.codec.read x = .error e) :
      Extraction results (.error (.malformedResults e))
  /-- what stands there is no list -/
  | unlisted {v : Value} (h : Value.find? results recommendationsName = some v) (hnull : v ≠ .null)
      (harray : ∀ xs, v ≠ .array xs) :
      Extraction results (.error (.malformedResults (Codec.mistyped v "a sequence")))

/-- **The list is read as a whole or not at all**: the recommendations of a description are those of
all items in their order, and its fault is that of the first item that cannot be read. -/
theorem recommendationsOf_eq_iff {answer : Except Failure (List InferenceRecommendation)} :
    recommendationsOf results = answer ↔ Extraction results answer := by
  constructor
  · rintro rfl
    by_cases hunranked : Unranked results
    · rw [recommendationsOf_of_unranked hunranked]
      exact .unranked hunranked
    · cases hfind : Value.find? results recommendationsName with
      | none => exact absurd (.inl hfind) hunranked
      | some ranked =>
        have hnull : ranked ≠ .null := by
          rintro rfl
          exact hunranked (.inr hfind)
        rw [recommendationsOf_of_ranked hfind hnull]
        cases ranked with
        | array xs =>
          show Extraction results ((Codec.readAll _ xs).mapError .malformedResults)
          cases hread : Codec.readAll InferenceRecommendation.codec.read xs with
          | ok recommendations => exact .whole hfind (Codec.readAll_eq_ok_iff.mp hread)
          | error e =>
            obtain ⟨front, x, behind, rfl, hfront, hx⟩ := Codec.readAll_eq_error_iff.mp hread
            exact .faulty hfind hfront hx
        | _ => exact .unlisted hfind hnull nofun
  · intro h
    cases h with
    | unranked h => exact recommendationsOf_of_unranked h
    | whole h hall => exact recommendationsOf_eq_ok_iff.mpr (.inr ⟨_, h, hall⟩)
    | faulty h hfront hx =>
      rw [recommendationsOf_of_ranked h nofun, mapError_eq_error_iff]
      exact ⟨_, Codec.readAll_eq_error_iff.mpr ⟨_, _, _, rfl, hfront, hx⟩, rfl⟩
    | @unlisted v h hnull harray =>
      rw [recommendationsOf_of_ranked h hnull]
      cases v with
      | array xs => exact absurd rfl (harray xs)
      | _ => rfl

/-! ## The best of them -/

namespace JobOutcome

variable {jobName : String} {jobType : JobType} {completedAt : Int} {o : JobOutcome}

theorem top?_eq_none_iff (h : ofResults jobName jobType results completedAt = .ok o) :
    o.top? = none ↔
      Unranked results ∨ Value.find? results recommendationsName = some (.array []) := by
  obtain ⟨-, -, -, hread, -⟩ := ofResults_eq_ok_iff.mp h
  show o.recommendations.head? = none ↔ _
  rw [List.head?_eq_none_iff]
  rcases recommendationsOf_eq_ok_iff.mp hread with ⟨hunranked, hnil⟩ | ⟨xs, hxs, hall⟩
  · exact iff_of_true hnil (.inl hunranked)
  · constructor
    · intro hnil
      rw [hnil, List.forall₂_nil_right_iff] at hall
      exact .inr (hall ▸ hxs)
    · rintro ((hnone | hnull) | hempty)
      · cases hxs.symm.trans hnone
      · cases hxs.symm.trans hnull
      · cases hxs.symm.trans hempty
        exact List.forall₂_nil_left_iff.mp hall

/-- the best recommendation is the first item of the array, whatever follows -/
theorem top?_eq_some_iff (h : ofResults jobName jobType results completedAt = .ok o)
    {best : InferenceRecommendation} :
    o.top? = some best ↔
      ∃ x rest, Value.find? results recommendationsName = some (.array (x :: rest)) ∧
        InferenceRecommendation.codec.read x = .ok best := by
  obtain ⟨-, -, -, hread, -⟩ := ofResults_eq_ok_iff.mp h
  show o.recommendations.head? = some best ↔ _
  rcases recommendationsOf_eq_ok_iff.mp hread with ⟨hunranked, hnil⟩ | ⟨xs, hxs, hall⟩
  · rw [hnil]
    refine iff_of_false nofun ?_
    rintro ⟨x, rest, hx, -⟩
    rcases hunranked with h | h <;> cases hx.symm.trans h
  · rw [hxs]
    generalize o.recommendations = recommendations at hall
    cases hall with
    | nil => exact iff_of_false nofun fun ⟨_, _, h, _⟩ => nomatch h
    | @cons y r ys rs hy hys =>
      constructor
      · rintro ⟨⟩
        exact ⟨y, ys, rfl, hy⟩
      · rintro ⟨x, rest, hx, hbest⟩
        cases hx
        cases hy.symm.trans hbest
        rfl

/-- with an item in front, all depends on how this item is read -/
theorem top?_eq_some_iff_of_first (h : ofResults jobName jobType results completedAt = .ok o)
    {x : Value} {rest : List Value}
    (hx : Value.find? results recommendationsName = some (.array (x :: rest)))
    {best : InferenceRecommendation} :
    o.top? = some best ↔ InferenceRecommendation.codec.read x = .ok best := by
  rw [top?_eq_some_iff h]
  constructor
  · rintro ⟨x', rest', hx', hbest⟩
    cases hx.symm.trans hx'
    exact hbest
  · intro hbest
    exact ⟨x, rest, hx, hbest⟩

end JobOutcome

end

/-! ## Outcomes -/

namespace JobOutcome

theorem ofResults_eq_error_iff {jobName : String} {jobType : JobType} {results : JobResults}
    {completedAt : Int} {failure : Failure} :
    ofResults jobName jobType results completedAt = .error failure ↔
      recommendationsOf results = .error failure :=
  map_eq_error_iff

/-- **Extraction is all or nothing and keeps the order.**  What a description comes to is said by its
ranked list alone.  An outcome is made exactly when that list can be read; it keeps the description
untouched beside the recommendations, and the best of these is read from the first item. -/
theorem extraction (results : JobResults) :
    (∀ answer, recommendationsOf results = answer ↔ Extraction results answer) ∧
      ∀ jobName jobType completedAt,
        (∀ failure, ofResults jobName jobType results completedAt = .error failure ↔
          Extraction results (.error failure)) ∧
        (∀ o, ofResults jobName jobType results completedAt = .ok o ↔
          o.jobName = jobName ∧ o.jobType = jobType ∧ o.results = results ∧
            Extraction results (.ok o.recommendations) ∧ o.completedAt = completedAt) ∧
        ∀ o, ofResults jobName jobType results completedAt = .ok o → ∀ best,
          (o.top? = some best ↔ ∃ x rest,
            Value.find? results recommendationsName = some (.array (x :: rest)) ∧
              InferenceRecommendation.codec.read x = .ok best) := by
  refine ⟨fun _ => recommendationsOf_eq_iff, fun jobName jobType completedAt => ⟨?_, ?_, ?_⟩⟩
  · intro failure
    rw [ofResults_eq_error_iff, recommendationsOf_eq_iff]
  · intro o
    rw [ofResults_eq_ok_iff, recommendationsOf_eq_iff]
  · intro o ho best
    exact top?_eq_some_iff ho

/-- two items that are read, and one that is not in front of another -/
theorem extraction_of_three :
    let results (items : List Value) : JobResults := [(recommendationsName, .array items)]
    let good := Value.array [.array [.string "m", .integer 2]]
    let better := Value.array [.array [.string "n", .integer 1]]
    let ranked : List InferenceRecommendation :=
      [⟨⟨"n", 1, none, none⟩, none, none⟩, ⟨⟨"m", 2, none, none⟩, none, none⟩]
    let outcome : JobOutcome := ⟨"job", .default, results [better, good], ranked, 0⟩
    Extraction (results [better, good]) (.ok ranked) ∧
      ofResults "job" .default (results [better, good]) 0 = .ok outcome ∧
      outcome.top? = some ⟨⟨"n", 1, none, none⟩, none, none⟩ ∧
      recommendationsOf (results [good, .array [.null], .bool true]) =
        .error (.malformedResults (.invalidType .null "struct RecommendedEndpoint")) := by
  intro results good better ranked outcome
  have hwhole := extraction (results [better, good])
  have hall := (hwhole.1 (.ok ranked)).mp rfl
  have houtcome := ((hwhole.2 "job" .default 0).2.1 outcome).mpr ⟨rfl, rfl, rfl, hall, rfl⟩
  refine ⟨hall, houtcome, ?_, ?_⟩
  · exact ((hwhole.2 "job" .default 0).2.2 outcome houtcome _).mpr ⟨better, [good], rfl, rfl⟩
  · have hgood : ∀ y ∈ [good], ∃ r, InferenceRecommendation.codec.read y = .ok r :=
      List.forall_mem_singleton.mpr ⟨_, rfl⟩
    have hplace : Value.find? (results [good, .array [.null], .bool true]) recommendationsName =
        some (.array ([good] ++ .array [.null] :: [.bool true])) := rfl
    exact ((extraction _).1 _).mpr (.faulty hplace hgood rfl)

end JobOutcome

end RightSizing
