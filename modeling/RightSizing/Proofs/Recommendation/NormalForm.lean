import RightSizing.Proofs.Json.Values
import RightSizing.Proofs.Record.RoundTrip
import RightSizing.Proofs.Recommendation.Grammar

/-!
# The normal form of recommendations

A recommendation may come as an object or an array, with whole numbers for its costs, with nulls or
without them.  Whatever it came as, writing it gives one form that reading leaves as it is.  Two
kinds of recommendation would be lost in writing, those with a cost that is not finite and those
with null for a model configuration; neither is ever read from a JSON value.

* `RecommendationMetrics.codec_keeps`, `InferenceRecommendation.codec_keeps`  what is kept
* `RecommendationMetrics.isFinite_of_read`, `InferenceRecommendation.isPlain_of_read`  what is read
* `InferenceRecommendation.normal_form`   reading, writing and reading again
-/

namespace RightSizing

open Codec Member Value

theorem RecommendedEndpoint.layout_faithful : RecommendedEndpoint.layout.Faithful where
  nodup := by decide
  recovers := ⟨⟨⟨⟨trivial, required_recovers _ _ _⟩, required_recovers _ _ _⟩,
    skipping_isNone_recovers rfl⟩, skipping_isNone_recovers rfl⟩
  build _ := rfl

theorem RecommendedEndpoint.codec_lawful : RecommendedEndpoint.codec.Lawful :=
  RecommendedEndpoint.layout_faithful.codec_lawful _ fun _ =>
    ⟨⟨⟨⟨trivial, text_lawful _⟩, count32_lawful _⟩, text_lawful.optional text_neverNull _⟩,
      text_lawful.optional text_neverNull _⟩

namespace RecommendationMetrics

/-- the costs are finite -/
structure IsFinite (m : RecommendationMetrics) : Prop where
  costPerHour : ∀ x ∈ m.costPerHour, x.isFinite = true
  costPerInference : ∀ x ∈ m.costPerInference, x.isFinite = true

theorem layout_faithful : layout.Faithful where
  nodup := by decide
  recovers := ⟨⟨⟨⟨trivial, defaulted_recovers _ _ _ _⟩, defaulted_recovers _ _ _ _⟩,
    defaulted_recovers _ _ _ _⟩, defaulted_recovers _ _ _ _⟩
  build _ := rfl

/-- a finite double is written as a number, so it is never taken for an absent one -/
theorem optional_double_keeps {o : Option Binary64} (h : ∀ x ∈ o, x.isFinite = true) :
    double.optional.Keeps o := by
  apply optional_keeps
  intro x hx
  refine ⟨double_keeps (h x hx), ?_⟩
  rw [double_write_of_finite (h x hx)]
  exact nofun

theorem codec_keeps {m : RecommendationMetrics} (h : m.IsFinite) : codec.Keeps m :=
  layout_faithful.codec_keeps _
    ⟨⟨⟨⟨trivial, optional_double_keeps h.costPerHour⟩, optional_double_keeps h.costPerInference⟩,
      count64_lawful.optional count64_neverNull _⟩, count64_lawful.optional count64_neverNull _⟩

/-- a cost that is not finite is written as null, and comes back as none -/
example : codec.read (codec.write ⟨some .nan, none, none, none⟩) = .ok ⟨none, none, none, none⟩ :=
  rfl

end RecommendationMetrics

namespace InferenceRecommendation

/-- the costs are finite, and null is no model configuration -/
structure IsPlain (r : InferenceRecommendation) : Prop where
  metrics : ∀ m ∈ r.metrics, m.IsFinite
  modelConfiguration : r.modelConfiguration ≠ some .null

theorem layout_faithful : layout.Faithful where
  nodup := by decide
  recovers := ⟨⟨⟨trivial, required_recovers _ _ _⟩, skipping_isNone_recovers rfl⟩,
    skipping_isNone_recovers rfl⟩
  build _ := rfl

theorem codec_keeps {r : InferenceRecommendation} (h : r.IsPlain) : codec.Keeps r := by
  have hmetrics : RecommendationMetrics.codec.optional.Keeps r.metrics :=
    optional_keeps fun m hm =>
      ⟨RecommendationMetrics.codec_keeps (h.metrics m hm), Layout.codec_neverNull _ _ m⟩
  have hconfiguration : free.optional.Keeps r.modelConfiguration :=
    optional_keeps fun x hx =>
      ⟨free_lawful x, fun hnull => h.modelConfiguration (hx.trans (congrArg some hnull))⟩
  exact layout_faithful.codec_keeps _
    ⟨⟨⟨trivial, RecommendedEndpoint.codec_lawful _⟩, hmetrics⟩, hconfiguration⟩

/-- null for a model configuration comes back as none -/
example : codec.read (codec.write ⟨⟨"m", 1, none, none⟩, none, some .null⟩) =
    .ok ⟨⟨"m", 1, none, none⟩, none, none⟩ := rfl

end InferenceRecommendation

/-! ## What is read -/

/-- a member of a JSON value is read as a finite double -/
theorem Value.IsJson.isFinite_of_gives {v : Value} (h : v.IsJson) {name : String} {place : Nat}
    {o : Option Binary64} (hgives : Gives ShowsDouble (v.member? name place) o) :
    ∀ x ∈ o, x.isFinite = true := by
  rintro x rfl
  obtain ⟨y, hy, -, n, rfl, rfl⟩ := hgives
  cases h.member? hy with
  | number hn => exact hn.nearest

theorem RecommendationMetrics.isFinite_of_read {v : Value} (h : v.IsJson)
    {m : RecommendationMetrics} (hread : codec.read v = .ok m) : m.IsFinite := by
  have hshows := read_eq_ok_iff.mp hread
  exact ⟨h.isFinite_of_gives hshows.costPerHour, h.isFinite_of_gives hshows.costPerInference⟩

theorem InferenceRecommendation.isPlain_of_read {v : Value} (h : v.IsJson)
    {r : InferenceRecommendation} (hread : codec.read v = .ok r) : r.IsPlain := by
  have hshows := read_eq_ok_iff.mp hread
  refine ⟨fun m hm => ?_, fun hnull => ?_⟩
  · have hgives := hshows.metrics
    rw [Option.mem_def.mp hm] at hgives
    obtain ⟨x, hx, -, hm⟩ := hgives
    exact RecommendationMetrics.isFinite_of_read (h.member? hx)
      (RecommendationMetrics.read_eq_ok_iff.mpr hm)
  · have hgives := hshows.modelConfiguration
    rw [hnull] at hgives
    obtain ⟨x, -, hx, hsame⟩ := hgives
    exact hx hsame

/-! ## Reading and writing again -/

/-- **Writing gives a recommendation its normal form.**  Endpoints are kept, metrics when their
costs are finite, and recommendations when null is not their model configuration besides.  Whatever
is read from a JSON value is of these, so what is written for it is read as the same again, and
reading and writing leave that form as it is.  The value of every text is a JSON value. -/
theorem InferenceRecommendation.normal_form :
    (∀ e, RecommendedEndpoint.codec.Keeps e) ∧
      (∀ m : RecommendationMetrics, m.IsFinite → RecommendationMetrics.codec.Keeps m) ∧
      (∀ r : InferenceRecommendation, r.IsPlain → codec.Keeps r) ∧
      (∀ v : Value, v.IsJson →
        (∀ e, RecommendedEndpoint.codec.read v = .ok e → RecommendedEndpoint.codec.Settles e) ∧
        (∀ m, RecommendationMetrics.codec.read v = .ok m →
          m.IsFinite ∧ RecommendationMetrics.codec.Settles m) ∧
        ∀ r, codec.read v = .ok r → r.IsPlain ∧ codec.Settles r) ∧
      ∀ text v, Json.read? text = some v → v.IsJson := by
  refine ⟨RecommendedEndpoint.codec_lawful, fun _ => RecommendationMetrics.codec_keeps,
    fun _ => codec_keeps, fun v hv => ⟨fun e _ => ?_, fun m hm => ?_, fun r hr => ?_⟩,
    fun _ _ => Json.read?_isJson⟩
  · exact Keeps.settles (RecommendedEndpoint.codec_lawful e)
  · have hfinite := RecommendationMetrics.isFinite_of_read hv hm
    exact ⟨hfinite, Keeps.settles (RecommendationMetrics.codec_keeps hfinite)⟩
  · have hplain := isPlain_of_read hv hr
    exact ⟨hplain, Keeps.settles (codec_keeps hplain)⟩

/-- arrays that end early, with a whole number for a cost -/
theorem InferenceRecommendation.normal_form_of_array :
    let v : Value := .array [.array [.string "m", .integer 2], .array [.integer 1]]
    let r : InferenceRecommendation :=
      ⟨⟨"m", 2, none, none⟩, some ⟨some (.ofInt 1), none, none, none⟩, none⟩
    v.IsJson ∧ codec.read v = .ok r ∧ r.IsPlain ∧ codec.Settles r := by
  intro v r
  have hv : v.IsJson := by
    refine .array (List.forall_mem_cons.mpr ⟨.array ?_, List.forall_mem_singleton.mpr (.array ?_)⟩)
    · exact List.forall_mem_cons.mpr
        ⟨.string _, List.forall_mem_singleton.mpr (.number ⟨by decide, by decide⟩)⟩
    · exact List.forall_mem_singleton.mpr (.number ⟨by decide, by decide⟩)
  have hr : codec.read v = .ok r := rfl
  exact ⟨hv, hr, (InferenceRecommendation.normal_form.2.2.2.1 v hv).2.2 r hr⟩

end RightSizing
