import RightSizing.Proofs.Record.Reading
import RightSizing.Recommendation.Basic

/-!
# The grammar of recommendations

Which values are recommendations, and what is read from them.  A record is an object or an array, so
a member is named together with its place (`Value.member?`); an array may be short by the members at
its end that need not be there.

* `Value.IsEndpoint`, `Value.IsMetrics`, `Value.IsRecommendation`  the values that can be read
* `Value.ShowsEndpoint`, `Value.ShowsMetrics`, `Value.Shows`  what is read, member by member
* `RecommendedEndpoint.read_eq_ok_iff`, `RecommendationMetrics.read_eq_ok_iff`  the inner records
* `InferenceRecommendation.read_grammar`   the whole recommendation
-/

namespace RightSizing

namespace Value

/-- the member is there and satisfies `p` -/
def Holds (name : String) (place : Nat) (p : Value → Prop) (v : Value) : Prop :=
  ∃ x, v.member? name place = some x ∧ p x

/-- the member is missing, is null, or satisfies `p` -/
def MayHold (name : String) (place : Nat) (p : Value → Prop) (v : Value) : Prop :=
  ∀ x, v.member? name place = some x → x = .null ∨ p x

/-- what a member that may be missing is read as: nothing when it is missing or null -/
def Gives (shows : Value → α → Prop) (x? : Option Value) : Option α → Prop
  | none => x? = none ∨ x? = some .null
  | some a => ∃ x, x? = some x ∧ x ≠ .null ∧ shows x a

def IsText (x : Value) : Prop := ∃ s, x = .string s

def IsNumber (x : Value) : Prop := ∃ n, x = .number n

/-- a whole number from zero to below `limit`; a double is none, whatever its value -/
def IsCount (limit : Nat) (x : Value) : Prop := ∃ n : Int, x = .integer n ∧ 0 ≤ n ∧ n < limit

/-! ## Values that can be read -/

structure IsEndpoint (v : Value) : Prop where
  record : v.IsRecord 2 4
  instanceType : v.Holds "InstanceType" 0 IsText
  initialInstanceCount : v.Holds "InitialInstanceCount" 1 (IsCount (Nat.pow 2 32))
  variantName : v.MayHold "VariantName" 2 IsText
  endpointName : v.MayHold "EndpointName" 3 IsText

structure IsMetrics (v : Value) : Prop where
  record : v.IsRecord 0 4
  costPerHour : v.MayHold "CostPerHour" 0 IsNumber
  costPerInference : v.MayHold "CostPerInference" 1 IsNumber
  maxInvocations : v.MayHold "MaxInvocations" 2 (IsCount (Nat.pow 2 64))
  modelLatency : v.MayHold "ModelLatency" 3 (IsCount (Nat.pow 2 64))

/-- the model configuration, in third place, may be anything -/
structure IsRecommendation (v : Value) : Prop where
  record : v.IsRecord 1 3
  endpoint : v.Holds "EndpointConfiguration" 0 IsEndpoint
  metrics : v.MayHold "Metrics" 1 IsMetrics

/-! ## What they are read as -/

structure ShowsEndpoint (v : Value) (e : RecommendedEndpoint) : Prop where
  record : v.IsRecord 2 4
  instanceType : v.member? "InstanceType" 0 = some (.string e.instanceType)
  initialInstanceCount :
    v.member? "InitialInstanceCount" 1 = some (.integer e.initialInstanceCount.toNat)
  variantName : Gives (fun x s => x = .string s) (v.member? "VariantName" 2) e.variantName
  endpointName : Gives (fun x s => x = .string s) (v.member? "EndpointName" 3) e.endpointName

/-- a number that is read as the double nearest to it -/
def ShowsDouble (x : Value) (d : Binary64) : Prop := ∃ n : Number, x = .number n ∧ n.nearest = d

structure ShowsMetrics (v : Value) (m : RecommendationMetrics) : Prop where
  record : v.IsRecord 0 4
  costPerHour : Gives ShowsDouble (v.member? "CostPerHour" 0) m.costPerHour
  costPerInference : Gives ShowsDouble (v.member? "CostPerInference" 1) m.costPerInference
  maxInvocations :
    Gives (fun x n => x = .integer n.toNat) (v.member? "MaxInvocations" 2) m.maxInvocations
  modelLatency :
    Gives (fun x n => x = .integer n.toNat) (v.member? "ModelLatency" 3) m.modelLatency

structure Shows (v : Value) (r : InferenceRecommendation) : Prop where
  record : v.IsRecord 1 3
  endpoint : ∃ x, v.member? "EndpointConfiguration" 0 = some x ∧ x.ShowsEndpoint r.endpoint
  metrics : Gives ShowsMetrics (v.member? "Metrics" 1) r.metrics
  modelConfiguration :
    Gives (fun x y => x = y) (v.member? "ModelConfiguration" 2) r.modelConfiguration

/-! ## Facts on forms and members -/

/-- an array with a member at some place reaches to that place -/
theorem IsRecord.of_member? {v x : Value} {most : Nat} {name : String} {place : Nat}
    (h : v.IsRecord 0 most) (hx : v.member? name place = some x) : v.IsRecord (place + 1) most := by
  cases v with
  | array items =>
    obtain ⟨hplace, -⟩ := List.getElem?_eq_some_iff.mp hx
    exact ⟨hplace, h.2⟩
  | _ => exact h

theorem IsRecord.of_holds {v : Value} {most : Nat} {name : String} {place : Nat} {p : Value → Prop}
    (h : v.IsRecord 0 most) (hmember : v.Holds name place p) : v.IsRecord (place + 1) most := by
  obtain ⟨x, hx, -⟩ := hmember
  exact h.of_member? hx

theorem IsRecord.zero {v : Value} {least most : Nat} (h : v.IsRecord least most) :
    v.IsRecord 0 most := by
  cases v with
  | array items => exact ⟨Nat.zero_le _, h.2⟩
  | _ => exact h

theorem Gives.congr {shows shows' : Value → α → Prop} (h : ∀ {x a}, shows x a ↔ shows' x a)
    {x? : Option Value} {o : Option α} : Gives shows x? o ↔ Gives shows' x? o := by
  cases o <;> simp only [Gives, h]

end Value

open Value

/-! ## Members that are read -/

theorem Codec.optional_read_eq_ok_iff {c : Codec α} {x : Value} {o : Option α} :
    c.optional.read x = .ok o ↔ Gives (fun x a => c.read x = .ok a) (some x) o := by
  by_cases h : x = .null
  · rw [h, Codec.optional_read_null]
    cases o <;> simp [Gives]
  · rw [Codec.optional_read_of_ne_null c h, map_eq_ok_iff]
    cases o <;> simp [Gives, h]

namespace Member

variable {name : String} {content : Codec α} {v : Value} {place : Nat}

theorem required_takes_iff {get : ρ → α} {a : α} :
    (Member.required name content get).Takes v place a ↔
      ∃ x, v.member? name place = some x ∧ content.read x = .ok a := by
  cases hx : v.member? name place with
  | some x =>
    rw [Member.takes_of_some _ hx]
    exact ⟨fun ha => ⟨x, rfl, ha⟩, fun ⟨_, e, ha⟩ => Option.some.inj e ▸ ha⟩
  | none =>
    rw [Member.takes_of_none _ hx]
    cases v <;> simp [lacking, required]

theorem defaulted_takes_iff {get : ρ → Option α} {o : Option α} :
    (Member.defaulted name content.optional get none).Takes v place o ↔
      Gives (fun x a => content.read x = .ok a) (v.member? name place) o := by
  cases hx : v.member? name place with
  | some x =>
    rw [Member.takes_of_some _ hx]
    exact Codec.optional_read_eq_ok_iff
  | none =>
    rw [Member.takes_of_none _ hx]
    cases v <;> cases o <;> simp [lacking, defaulted, Gives]

theorem exists_required_takes_iff {get : ρ → α} :
    (∃ a, (Member.required name content get).Takes v place a) ↔
      v.Holds name place fun x => ∃ a, content.read x = .ok a := by
  simp only [required_takes_iff, Holds]
  constructor
  · rintro ⟨a, x, hx, ha⟩
    exact ⟨x, hx, a, ha⟩
  · rintro ⟨x, hx, a, ha⟩
    exact ⟨a, x, hx, ha⟩

theorem exists_defaulted_takes_iff {get : ρ → Option α} :
    (∃ o, (Member.defaulted name content.optional get none).Takes v place o) ↔
      v.MayHold name place fun x => ∃ a, content.read x = .ok a := by
  simp only [defaulted_takes_iff, MayHold]
  cases v.member? name place with
  | none => exact ⟨fun _ => nofun, fun _ => ⟨none, .inl rfl⟩⟩
  | some x =>
    constructor
    · rintro ⟨o, h⟩ y e
      cases e
      cases o with
      | none => exact .inl (by simpa [Gives] using h)
      | some a =>
        obtain ⟨y, e, -, ha⟩ := h
        cases e
        exact .inr ⟨a, ha⟩
    · intro h
      by_cases hnull : x = .null
      · exact ⟨none, .inr (congrArg some hnull)⟩
      · obtain ⟨a, ha⟩ := (h x rfl).resolve_left hnull
        exact ⟨some a, x, rfl, hnull, ha⟩

theorem hidden_takes_iff {get : ρ → Option α} {o : Option α} :
    (Member.hidden name content get).Takes v place o ↔
      Gives (fun x a => content.read x = .ok a) (v.member? name place) o :=
  show (Member.defaulted name content.optional get none).Takes v place o ↔ _ from
    defaulted_takes_iff

theorem exists_hidden_takes_iff {get : ρ → Option α} :
    (∃ o, (Member.hidden name content get).Takes v place o) ↔
      v.MayHold name place fun x => ∃ a, content.read x = .ok a :=
  show (∃ o, (Member.defaulted name content.optional get none).Takes v place o) ↔ _ from
    exists_defaulted_takes_iff

theorem text_takes_iff {get : ρ → String} {s : String} :
    (Member.required name .text get).Takes v place s ↔
      v.member? name place = some (.string s) := by
  rw [required_takes_iff]
  simp only [Codec.text_read_eq_ok_iff, exists_eq_right]

theorem count32_takes_iff {get : ρ → UInt32} {n : UInt32} :
    (Member.required name .count32 get).Takes v place n ↔
      v.member? name place = some (.integer n.toNat) := by
  rw [required_takes_iff]
  simp only [Codec.count32_read_eq_ok_iff, exists_eq_right]

theorem hidden_text_takes_iff {get : ρ → Option String} {o : Option String} :
    (Member.hidden name .text get).Takes v place o ↔
      Gives (fun x s => x = .string s) (v.member? name place) o :=
  hidden_takes_iff.trans (Gives.congr Codec.text_read_eq_ok_iff)

theorem hidden_free_takes_iff {get : ρ → Option Value} {o : Option Value} :
    (Member.hidden name .free get).Takes v place o ↔
      Gives (fun x y => x = y) (v.member? name place) o :=
  hidden_takes_iff.trans (Gives.congr Codec.free_read_eq_ok_iff)

theorem defaulted_double_takes_iff {get : ρ → Option Binary64} {o : Option Binary64} :
    (Member.defaulted name (.optional .double) get none).Takes v place o ↔
      Gives ShowsDouble (v.member? name place) o :=
  defaulted_takes_iff.trans (Gives.congr Codec.double_read_eq_ok_iff)

theorem defaulted_count64_takes_iff {get : ρ → Option UInt64} {o : Option UInt64} :
    (Member.defaulted name (.optional .count64) get none).Takes v place o ↔
      Gives (fun x n => x = .integer n.toNat) (v.member? name place) o :=
  defaulted_takes_iff.trans (Gives.congr Codec.count64_read_eq_ok_iff)

end Member

namespace Codec

theorem exists_text_read_iff {x : Value} : (∃ s, text.read x = .ok s) ↔ x.IsText := by
  simp only [text_read_eq_ok_iff, IsText]

/-- the counts of a width are the whole numbers below its limit -/
theorem exists_integer_iff {limit : Nat} {toNat : α → Nat} {ofNat : Nat → α}
    (hlt : ∀ a, toNat a < limit) (hto : ∀ n < limit, toNat (ofNat n) = n) {x : Value} :
    (∃ a, x = .integer (toNat a)) ↔ x.IsCount limit := by
  constructor
  · rintro ⟨a, rfl⟩
    exact ⟨toNat a, rfl, Int.natCast_nonneg _, Int.ofNat_lt.mpr (hlt a)⟩
  · rintro ⟨n, rfl, h0, hn⟩
    refine ⟨ofNat n.toNat, ?_⟩
    rw [hto _ ((Int.toNat_lt h0).mpr hn), Int.toNat_of_nonneg h0]

theorem exists_count32_read_iff {x : Value} :
    (∃ n, count32.read x = .ok n) ↔ x.IsCount (Nat.pow 2 32) := by
  simp only [count32_read_eq_ok_iff]
  exact exists_integer_iff UInt32.toNat_lt fun _ => UInt32.toNat_ofNat_of_lt'

theorem exists_count64_read_iff {x : Value} :
    (∃ n, count64.read x = .ok n) ↔ x.IsCount (Nat.pow 2 64) := by
  simp only [count64_read_eq_ok_iff]
  exact exists_integer_iff UInt64.toNat_lt fun _ => UInt64.toNat_ofNat_of_lt'

theorem exists_double_read_iff {x : Value} : (∃ d, double.read x = .ok d) ↔ x.IsNumber := by
  simp only [double_read_eq_ok_iff, IsNumber]
  constructor
  · rintro ⟨_, n, hn, -⟩
    exact ⟨n, hn⟩
  · rintro ⟨n, hn⟩
    exact ⟨n.nearest, n, hn, rfl⟩

end Codec

/-! ## The records -/

namespace RecommendedEndpoint

theorem accepts_iff {v : Value} :
    v.IsRecord 0 layout.size ∧ layout.Accepts v ↔ v.IsEndpoint := by
  simp only [layout, Layout.Accepts, Layout.size, Member.exists_required_takes_iff,
    Member.exists_hidden_takes_iff, Codec.exists_text_read_iff, Codec.exists_count32_read_iff,
    true_and]
  constructor
  · rintro ⟨hrecord, ⟨⟨htype, hcount⟩, hvariant⟩, hname⟩
    exact ⟨hrecord.of_holds hcount, htype, hcount, hvariant, hname⟩
  · rintro ⟨hrecord, htype, hcount, hvariant, hname⟩
    exact ⟨hrecord.zero, ⟨⟨htype, hcount⟩, hvariant⟩, hname⟩

theorem exists_read_iff {v : Value} : (∃ e, codec.read v = .ok e) ↔ v.IsEndpoint :=
  (Layout.exists_codec_read_iff _ layout v).trans accepts_iff

theorem takes_iff {v : Value} {e : RecommendedEndpoint} :
    v.IsRecord 0 layout.size ∧ layout.Takes v e ↔ v.ShowsEndpoint e := by
  constructor
  · rintro ⟨hrecord, _, _, ⟨_, _, ⟨_, _, ⟨_, _, rfl, htype, rfl⟩, hcount, rfl⟩, hvariant, rfl⟩,
      hname, rfl⟩
    have hcount := Member.count32_takes_iff.mp hcount
    exact ⟨hrecord.of_member? hcount, Member.text_takes_iff.mp htype, hcount,
      Member.hidden_text_takes_iff.mp hvariant, Member.hidden_text_takes_iff.mp hname⟩
  · rintro ⟨hrecord, htype, hcount, hvariant, hname⟩
    exact ⟨hrecord.zero, _, _, ⟨_, _, ⟨_, _, ⟨_, _, rfl, Member.text_takes_iff.mpr htype, rfl⟩,
      Member.count32_takes_iff.mpr hcount, rfl⟩, Member.hidden_text_takes_iff.mpr hvariant, rfl⟩,
      Member.hidden_text_takes_iff.mpr hname, rfl⟩

theorem read_eq_ok_iff {v : Value} {e : RecommendedEndpoint} :
    codec.read v = .ok e ↔ v.ShowsEndpoint e :=
  (Layout.codec_read_eq_ok_iff _ layout v e).trans takes_iff

end RecommendedEndpoint

namespace RecommendationMetrics

theorem accepts_iff {v : Value} :
    v.IsRecord 0 layout.size ∧ layout.Accepts v ↔ v.IsMetrics := by
  simp only [layout, Layout.Accepts, Layout.size, Member.exists_defaulted_takes_iff,
    Codec.exists_double_read_iff, Codec.exists_count64_read_iff, true_and]
  constructor
  · rintro ⟨hrecord, ⟨⟨hhour, hinference⟩, hmax⟩, hlatency⟩
    exact ⟨hrecord, hhour, hinference, hmax, hlatency⟩
  · rintro ⟨hrecord, hhour, hinference, hmax, hlatency⟩
    exact ⟨hrecord, ⟨⟨hhour, hinference⟩, hmax⟩, hlatency⟩

theorem exists_read_iff {v : Value} : (∃ m, codec.read v = .ok m) ↔ v.IsMetrics :=
  (Layout.exists_codec_read_iff _ layout v).trans accepts_iff

theorem takes_iff {v : Value} {m : RecommendationMetrics} :
    v.IsRecord 0 layout.size ∧ layout.Takes v m ↔ v.ShowsMetrics m := by
  constructor
  · rintro ⟨hrecord, _, _, ⟨_, _, ⟨_, _, ⟨_, _, rfl, hhour, rfl⟩, hinference, rfl⟩, hmax, rfl⟩,
      hlatency, rfl⟩
    exact ⟨hrecord, Member.defaulted_double_takes_iff.mp hhour,
      Member.defaulted_double_takes_iff.mp hinference, Member.defaulted_count64_takes_iff.mp hmax,
      Member.defaulted_count64_takes_iff.mp hlatency⟩
  · rintro ⟨hrecord, hhour, hinference, hmax, hlatency⟩
    exact ⟨hrecord, _, _, ⟨_, _, ⟨_, _, ⟨_, _, rfl,
      Member.defaulted_double_takes_iff.mpr hhour, rfl⟩,
      Member.defaulted_double_takes_iff.mpr hinference, rfl⟩,
      Member.defaulted_count64_takes_iff.mpr hmax, rfl⟩,
      Member.defaulted_count64_takes_iff.mpr hlatency, rfl⟩

theorem read_eq_ok_iff {v : Value} {m : RecommendationMetrics} :
    codec.read v = .ok m ↔ v.ShowsMetrics m :=
  (Layout.codec_read_eq_ok_iff _ layout v m).trans takes_iff

end RecommendationMetrics

namespace InferenceRecommendation

theorem accepts_iff {v : Value} :
    v.IsRecord 0 layout.size ∧ layout.Accepts v ↔ v.IsRecommendation := by
  simp only [layout, Layout.Accepts, Layout.size, Member.exists_required_takes_iff,
    Member.exists_hidden_takes_iff, RecommendedEndpoint.exists_read_iff,
    RecommendationMetrics.exists_read_iff, true_and]
  constructor
  · rintro ⟨hrecord, ⟨hendpoint, hmetrics⟩, -⟩
    exact ⟨hrecord.of_holds hendpoint, hendpoint, hmetrics⟩
  · rintro ⟨hrecord, hendpoint, hmetrics⟩
    exact ⟨hrecord.zero, ⟨hendpoint, hmetrics⟩, fun x _ => .inr ⟨x, rfl⟩⟩

theorem takes_iff {v : Value} {r : InferenceRecommendation} :
    v.IsRecord 0 layout.size ∧ layout.Takes v r ↔ v.Shows r := by
  constructor
  · rintro ⟨hrecord, _, _, ⟨_, _, ⟨_, _, rfl, hendpoint, rfl⟩, hmetrics, rfl⟩, hconfiguration, rfl⟩
    obtain ⟨x, hx, hendpoint⟩ := Member.required_takes_iff.mp hendpoint
    have hmetrics := (Gives.congr RecommendationMetrics.read_eq_ok_iff).mp
      (Member.hidden_takes_iff.mp hmetrics)
    exact ⟨hrecord.of_member? hx, ⟨x, hx, RecommendedEndpoint.read_eq_ok_iff.mp hendpoint⟩,
      hmetrics, Member.hidden_free_takes_iff.mp hconfiguration⟩
  · rintro ⟨hrecord, ⟨x, hx, hendpoint⟩, hmetrics, hconfiguration⟩
    have hmetrics := (Gives.congr RecommendationMetrics.read_eq_ok_iff).mpr hmetrics
    exact ⟨hrecord.zero, _, _, ⟨_, _, ⟨_, _, rfl,
      Member.required_takes_iff.mpr ⟨x, hx, RecommendedEndpoint.read_eq_ok_iff.mpr hendpoint⟩, rfl⟩,
      Member.hidden_takes_iff.mpr hmetrics, rfl⟩,
      Member.hidden_free_takes_iff.mpr hconfiguration, rfl⟩

theorem read_eq_ok_iff {v : Value} {r : InferenceRecommendation} :
    codec.read v = .ok r ↔ v.Shows r :=
  (Layout.codec_read_eq_ok_iff _ layout v r).trans takes_iff

/-- **A value can be read as a recommendation exactly when it is one**, and then every member of the
recommendation is what the value shows there: texts and counts as they stand, nothing for what is
missing or null, and the model configuration untouched. -/
theorem read_grammar (v : Value) :
    ((∃ r, codec.read v = .ok r) ↔ v.IsRecommendation) ∧
      ∀ r, codec.read v = .ok r ↔ v.Shows r :=
  ⟨(Layout.exists_codec_read_iff _ layout v).trans accepts_iff, fun _ => read_eq_ok_iff⟩

end InferenceRecommendation

end RightSizing
