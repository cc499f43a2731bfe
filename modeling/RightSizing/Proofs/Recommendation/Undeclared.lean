import RightSizing.Proofs.Recommendation.Extraction
import RightSizing.Proofs.Record.Declared

/-!
# Members that nobody declared

The service may say more than this library knows, at any level of a description.  Whatever it says
there, the recommendations are the same, or the description fails for the same fault
(`recommendationsOf_congr`).  The model configuration is the exception: it is kept as it came, so
every member of it counts.
-/

namespace RightSizing

namespace Value

/-- two recommendations that differ at most in undeclared members, of their own, of their endpoint
configurations and of their metrics -/
structure SameRecommendation (v w : Value) : Prop where
  form : v.SameForm w
  endpoint : Option.Rel (AlikeOn RecommendedEndpoint.layout.names)
    (v.member? "EndpointConfiguration" 0) (w.member? "EndpointConfiguration" 0)
  metrics : Option.Rel (AlikeOn RecommendationMetrics.layout.names)
    (v.member? "Metrics" 1) (w.member? "Metrics" 1)
  modelConfiguration : v.member? "ModelConfiguration" 2 = w.member? "ModelConfiguration" 2

/-- two ranked lists that differ in this way at any of their places -/
def SameRanking : Value → Value → Prop
  | array xs, array ys => List.Forall₂ SameRecommendation xs ys
  | v, w => v = w

end Value

/-- two descriptions whose ranked lists are the same or differ in this way -/
def SameDescription (results others : JobResults) : Prop :=
  Option.Rel Value.SameRanking (Value.find? results recommendationsName)
    (Value.find? others recommendationsName)

theorem InferenceRecommendation.read_congr {v w : Value} (h : v.SameRecommendation w) :
    codec.read v = codec.read w := by
  have hendpoint : Member.ReadsAlike (.required "EndpointConfiguration" RecommendedEndpoint.codec
      InferenceRecommendation.endpoint) v w 0 :=
    .of_rel h.endpoint fun _ _ halike => Layout.codec_read_of_alikeOn _ halike
  have hmetrics : Member.ReadsAlike (.hidden "Metrics" RecommendationMetrics.codec
      InferenceRecommendation.metrics) v w 1 :=
    .of_rel h.metrics fun _ _ halike =>
      Codec.optional_read_congr _ halike.form (Layout.codec_read_of_alikeOn _ halike)
  have hconfiguration : Member.ReadsAlike (.hidden "ModelConfiguration" .free
      InferenceRecommendation.modelConfiguration) v w 2 := .of_eq h.modelConfiguration
  exact Layout.codec_read_congr _ h.form ⟨⟨⟨trivial, hendpoint⟩, hmetrics⟩, hconfiguration⟩

/-- **Undeclared members never matter**: descriptions that differ in nothing else give the same
recommendations, or fail with the same error. -/
theorem recommendationsOf_congr {results others : JobResults} (h : SameDescription results others) :
    recommendationsOf results = recommendationsOf others := by
  unfold SameDescription at h
  unfold recommendationsOf
  generalize Value.find? results recommendationsName = ranked at h
  generalize Value.find? others recommendationsName = ranked' at h
  cases h with
  | none => rfl
  | @some v w h =>
    cases v with
    | array xs =>
      cases w with
      | array ys =>
        have hread : List.Forall₂ (fun x y => InferenceRecommendation.codec.read x =
            InferenceRecommendation.codec.read y) xs ys :=
          List.Forall₂.imp (fun _ _ => InferenceRecommendation.read_congr) h
        show (Codec.readAll _ xs).mapError _ = (Codec.readAll _ ys).mapError _
        rw [Codec.readAll_congr hread]
      | _ => cases h
    | _ =>
      cases h
      rfl

/-- an item that is read and one that is not, each with other members than before -/
theorem recommendationsOf_of_marked :
    let endpoint : Value.Members :=
      [("InitialInstanceCount", .integer 2), ("InstanceType", .string "m")]
    let metrics : Value.Members := [("ModelLatency", .integer 12)]
    let item (endpoint metrics : Value.Members) : Value.Members :=
      [("EndpointConfiguration", .object endpoint), ("Metrics", .object metrics)]
    let plain := Value.object (item endpoint metrics)
    let marked := Value.object (Value.insert "RecommendationId" (.string "abc") (item
      (Value.insert "Instances" .null endpoint) (Value.insert "Cpu" (.integer 50) metrics)))
    let broken : Value.Members := [("InitialInstanceCount", .integer 2), ("InstanceType", .null)]
    let results (items : List Value) : JobResults := [(recommendationsName, .array items)]
    let others (items : List Value) := Value.insert "JobName" (.string "job") (results items)
    recommendationsOf (results [plain]) = .ok [⟨⟨"m", 2, none, none⟩,
        some ⟨none, none, none, some 12⟩, none⟩] ∧
      recommendationsOf (others [marked]) = recommendationsOf (results [plain]) ∧
      recommendationsOf (results [plain, .object (item broken [])]) =
        .error (.malformedResults (.invalidType .null "a string")) ∧
      recommendationsOf (others [marked, .object (item (Value.insert "A" .null broken) [])]) =
        recommendationsOf (results [plain, .object (item broken [])]) := by
  intro endpoint metrics item plain marked broken results others
  have hothers : ∀ items items', List.Forall₂ Value.SameRecommendation items items' →
      SameDescription (results items) (others items') := fun _ _ h => .some h
  have hmarked : plain.SameRecommendation marked :=
    ⟨trivial, .some (.insert (by decide) _ endpoint), .some (.insert (by decide) _ metrics), rfl⟩
  have hbroken : Value.SameRecommendation (.object (item broken []))
      (.object (item (Value.insert "A" .null broken) [])) :=
    ⟨trivial, .some (.insert (by decide) _ broken), .some (.refl _ _), rfl⟩
  refine ⟨rfl, ?_, rfl, ?_⟩
  · exact (recommendationsOf_congr (hothers _ _ (.cons hmarked .nil))).symm
  · exact (recommendationsOf_congr (hothers _ _ (.cons hmarked (.cons hbroken .nil)))).symm

end RightSizing
